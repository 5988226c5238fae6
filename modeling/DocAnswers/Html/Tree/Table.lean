import DocAnswers.Html.Tree.Body

/-! Tree construction in tables, selections and templates. -/
namespace DocAnswers.Html.Tree.Builder
open Step

/-- Treats a token as in the body, with content for a table put before it. -/
def fosterInBody (b : Builder) (t : Token) : Step :=
  match { b with fostering := true }.inBody t with
  | done b => done { b with fostering := false }
  | again b => again { b with fostering := false }

/-- Elements that may hold parts of a table. -/
def tableContext : List String := ["table", "template", "html"]

def tableBodyContext : List String := ["tbody", "tfoot", "thead", "template", "html"]

def tableRowContext : List String := ["tr", "template", "html"]

/-- The mode with which a table's text is read. A document type does not interrupt the text. -/
def inTableText (b : Builder) (t : Token) : Step :=
  match t with
  | .char c => done (if c = '\x00' then b else { b with tableText := c :: b.tableText })
  | .doctype _ => done b
  | _ =>
    let chars := b.tableText.reverse
    let b := { b with tableText := [], mode := b.returnMode }
    if chars.all isSpace then again (chars.foldl addChar b)
    else
      let b := chars.foldl bodyChar { b with fostering := true }
      again { b with fostering := false }

def closeTable (b : Builder) : Builder := (b.popThrough ["table"]).resetMode

/-- Starts a part of a table, at the right level. -/
def insertPart (b : Builder) (context : List String) (tag : Tag) (mode : Mode) : Builder :=
  { (b.popTo context).insertTag tag with mode }

def tableStart (b : Builder) (tag : Tag) : Step :=
  let name := tag.name
  if name = "caption" then
    done { ((b.popTo tableContext).insertMarker).insertTag tag with mode := .inCaption }
  else if name = "colgroup" then done (b.insertPart tableContext tag .inColumnGroup)
  else if name = "col" then again (b.insertPart tableContext { name := "colgroup" } .inColumnGroup)
  else if ["tbody", "tfoot", "thead"].contains name then
    done (b.insertPart tableContext tag .inTableBody)
  else if ["td", "th", "tr"].contains name then
    again (b.insertPart tableContext { name := "tbody" } .inTableBody)
  else if name = "table" then if b.inScope .table ["table"] then again b.closeTable else done b
  else if ["style", "script", "template"].contains name then done (b.openHeadElement tag)
  else if name = "input" && isHidden tag then done (b.insertVoid tag)
  else if name = "form" then
    if b.hasOpen "template" || b.form.isSome then done b
    else
      let opened := b.insertTag tag
      done { opened.pop with form := opened.stack.head?.map (·.id) }
  else b.fosterInBody (.startTag tag)

def inTable (b : Builder) (t : Token) : Step :=
  match t with
  | .char _ =>
    if b.currentIs ["table", "tbody", "tfoot", "thead", "tr"] then
      again { b with returnMode := b.mode, mode := .inTableText }
    else b.fosterInBody t
  | .comment => done b
  | .doctype _ => done b
  | .startTag tag => b.tableStart tag
  | .endTag name =>
    if name = "table" then done (if b.inScope .table ["table"] then b.closeTable else b)
    else if name = "template" then done b.closeTemplate
    else if ["body", "caption", "col", "colgroup", "html", "tbody", "td", "tfoot", "th", "thead",
        "tr"].contains name then done b
    else b.fosterInBody t
  | .eof => b.inBody t

def closeCaption (b : Builder) : Builder :=
  { (b.closeImplied.popThrough ["caption"]).clearToMarker with mode := .inTable }

def inCaption (b : Builder) (t : Token) : Step :=
  let leave := if b.inScope .table ["caption"] then again b.closeCaption else done b
  match t with
  | .startTag tag =>
    if ["caption", "col", "colgroup", "tbody", "td", "tfoot", "th", "thead", "tr"].contains tag.name
    then leave
    else b.inBody t
  | .endTag name =>
    if name = "caption" then
      done (if b.inScope .table ["caption"] then b.closeCaption else b)
    else if name = "table" then leave
    else if ["body", "col", "colgroup", "html", "tbody", "td", "tfoot", "th", "thead", "tr"].contains
        name then done b
    else b.inBody t
  | _ => b.inBody t

def inColumnGroup (b : Builder) (t : Token) : Step :=
  let leave :=
    if b.currentIs ["colgroup"] then again { b.pop with mode := .inTable } else done b
  match t with
  | .char c => if isSpace c then done (b.addChar c) else leave
  | .comment => done b
  | .doctype _ => done b
  | .startTag tag =>
    if tag.name = "html" then done (b.mergeRoot tag)
    else if tag.name = "col" then done (b.insertVoid tag)
    else if tag.name = "template" then done (b.openHeadElement tag)
    else leave
  | .endTag name =>
    if name = "colgroup" then
      done (if b.currentIs ["colgroup"] then { b.pop with mode := .inTable } else b)
    else if name = "col" then done b
    else if name = "template" then done b.closeTemplate
    else leave
  | .eof => b.inBody t

/-- Leaves the current section of a table. -/
def closeSection (b : Builder) : Builder :=
  { (b.popTo tableBodyContext).pop with mode := .inTable }

def inTableBody (b : Builder) (t : Token) : Step :=
  let leave :=
    if b.inScope .table ["tbody", "thead", "tfoot"] then again b.closeSection else done b
  match t with
  | .startTag tag =>
    if tag.name = "tr" then done (b.insertPart tableBodyContext tag .inRow)
    else if tag.name = "th" || tag.name = "td" then
      again (b.insertPart tableBodyContext { name := "tr" } .inRow)
    else if ["caption", "col", "colgroup", "tbody", "tfoot", "thead"].contains tag.name then leave
    else b.inTable t
  | .endTag name =>
    if ["tbody", "tfoot", "thead"].contains name then
      done (if b.inScope .table [name] then b.closeSection else b)
    else if name = "table" then leave
    else if ["body", "caption", "col", "colgroup", "html", "td", "th", "tr"].contains name then done b
    else b.inTable t
  | _ => b.inTable t

/-- Leaves the current row of a table. -/
def closeRow (b : Builder) : Builder :=
  { (b.popTo tableRowContext).pop with mode := .inTableBody }

def inRow (b : Builder) (t : Token) : Step :=
  let leave := if b.inScope .table ["tr"] then again b.closeRow else done b
  match t with
  | .startTag tag =>
    if tag.name = "th" || tag.name = "td" then
      done (b.insertPart tableRowContext tag .inCell).insertMarker
    else if ["caption", "col", "colgroup", "tbody", "tfoot", "thead", "tr"].contains tag.name then leave
    else b.inTable t
  | .endTag name =>
    if name = "tr" then done (if b.inScope .table ["tr"] then b.closeRow else b)
    else if name = "table" then leave
    else if ["tbody", "tfoot", "thead"].contains name then
      if b.inScope .table [name] then leave else done b
    else if ["body", "caption", "col", "colgroup", "html", "td", "th"].contains name then done b
    else b.inTable t
  | _ => b.inTable t

/-- Leaves the current cell of a table. -/
def closeCell (b : Builder) (names : List String) : Builder :=
  { (b.closeImplied.popThrough names).clearToMarker with mode := .inRow }

def inCell (b : Builder) (t : Token) : Step :=
  let leave := again (b.closeCell ["td", "th"])
  match t with
  | .startTag tag =>
    if ["caption", "col", "colgroup", "tbody", "td", "tfoot", "th", "thead", "tr"].contains tag.name
    then if b.inScope .table ["td", "th"] then leave else done b
    else b.inBody t
  | .endTag name =>
    if name = "td" || name = "th" then
      done (if b.inScope .table [name] then b.closeCell [name] else b)
    else if ["body", "caption", "col", "colgroup", "html"].contains name then done b
    else if ["table", "tbody", "tfoot", "thead", "tr"].contains name then
      if b.inScope .table [name] then leave else done b
    else b.inBody t
  | _ => b.inBody t

/-- Leaves the current selection. -/
def closeSelect (b : Builder) : Builder := (b.popThrough ["select"]).resetMode

def popOption (b : Builder) : Builder := if b.currentIs ["option"] then b.pop else b

def popGroup (b : Builder) : Builder := if b.currentIs ["optgroup"] then b.pop else b

/-- Closes a group of options, and the last option in it. -/
def closeGroup (b : Builder) : Builder :=
  match b.stack with
  | e :: f :: _ => if e.isHtml "option" && f.isHtml "optgroup" then b.pop.popGroup else b.popGroup
  | _ => b.popGroup

def inSelect (b : Builder) (t : Token) : Step :=
  let inside := b.inScope .select ["select"]
  match t with
  | .char c => done (if c = '\x00' then b else b.addChar c)
  | .comment => done b
  | .doctype _ => done b
  | .startTag tag =>
    let name := tag.name
    if name = "html" then done (b.mergeRoot tag)
    else if name = "option" then done (b.popOption.insertTag tag)
    else if name = "optgroup" then done (b.popOption.popGroup.insertTag tag)
    else if name = "hr" then done (b.popOption.popGroup.insertVoid tag)
    else if name = "select" then done (if inside then b.closeSelect else b)
    else if ["input", "keygen", "textarea"].contains name then
      if inside then again b.closeSelect else done b
    else if name = "script" || name = "template" then done (b.openHeadElement tag)
    else done b
  | .endTag name =>
    if name = "optgroup" then done b.closeGroup
    else if name = "option" then done b.popOption
    else if name = "select" then done (if inside then b.closeSelect else b)
    else if name = "template" then done b.closeTemplate
    else done b
  | .eof => b.inBody t

/-- Parts of a table end a selection inside one. -/
def selectEndNames : List String :=
  ["caption", "table", "tbody", "tfoot", "thead", "tr", "td", "th"]

def inSelectInTable (b : Builder) (t : Token) : Step :=
  match t with
  | .startTag tag => if selectEndNames.contains tag.name then again b.closeSelect else b.inSelect t
  | .endTag name =>
    if selectEndNames.contains name then
      if b.inScope .table [name] then again b.closeSelect else done b
    else b.inSelect t
  | _ => b.inSelect t

/-- The first element in a template tells what the template is a part of. -/
def templateModeFor (name : String) : Option Mode :=
  if ["caption", "colgroup", "tbody", "tfoot", "thead"].contains name then some .inTable
  else if name = "col" then some .inColumnGroup
  else if name = "tr" then some .inTableBody
  else if name = "td" || name = "th" then some .inRow
  else none

def inTemplate (b : Builder) (t : Token) : Step :=
  match t with
  | .startTag tag =>
    if headNames.contains tag.name && tag.name != "noscript" then done (b.openHeadElement tag)
    else
      let mode := (templateModeFor tag.name).getD .inBody
      again { b with mode, templateModes := mode :: b.templateModes.tail }
  | .endTag name => done (if name = "template" then b.closeTemplate else b)
  | .eof => b.templateEof
  | _ => b.inBody t

end DocAnswers.Html.Tree.Builder
