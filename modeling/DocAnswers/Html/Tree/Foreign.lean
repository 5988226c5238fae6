import DocAnswers.Html.Tree.Table

/-! Tree construction inside elements of other vocabularies than HTML. -/
namespace DocAnswers.Html.Tree.Builder
open Step

/-- The elements of SVG whose names have capital letters. -/
def svgNames : List String :=
  ["altGlyph", "altGlyphDef", "altGlyphItem", "animateColor", "animateMotion", "animateTransform",
   "clipPath", "feBlend", "feColorMatrix", "feComponentTransfer", "feComposite",
   "feConvolveMatrix", "feDiffuseLighting", "feDisplacementMap", "feDistantLight", "feDropShadow",
   "feFlood", "feFuncA", "feFuncB", "feFuncG", "feFuncR", "feGaussianBlur", "feImage", "feMerge",
   "feMergeNode", "feMorphology", "feOffset", "fePointLight", "feSpecularLighting", "feSpotLight",
   "feTile", "feTurbulence", "foreignObject", "glyphRef", "linearGradient", "radialGradient",
   "textPath"]

/-- A name as SVG writes it. -/
def svgName (name : String) : String := (svgNames.find? (·.toLower = name)).getD name

/-- The HTML elements that do not stand in other vocabularies. -/
def breakoutNames : List String :=
  ["b", "big", "blockquote", "body", "br", "center", "code", "dd", "div", "dl", "dt", "em", "embed",
   "h1", "h2", "h3", "h4", "h5", "h6", "head", "hr", "i", "img", "li", "listing", "menu", "meta",
   "nobr", "ol", "p", "pre", "ruby", "s", "small", "span", "strong", "strike", "sub", "sup",
   "table", "tt", "u", "ul", "var"]

def isBreakout (tag : Tag) : Bool :=
  breakoutNames.contains tag.name ||
    (tag.name = "font" && tag.attributes.any fun a => ["color", "face", "size"].contains a.name)

/-- Whether text in an element is HTML although the element is not. -/
def isTextIntegration (e : Open) : Bool :=
  e.vocabulary == .mathml && ["mi", "mo", "mn", "ms", "mtext"].contains e.name

/-- Whether what stands in an element is HTML although the element is not. -/
def isHtmlIntegration (e : Open) : Bool :=
  e.vocabulary == .svg && ["foreignObject", "desc", "title"].contains e.name

/-- Whether a token inside an element is treated by the rules for other vocabularies. -/
def isForeignIn (e : Open) (t : Token) : Bool :=
  if e.vocabulary == .html then false
  else match t with
    | .eof => false
    | .char _ => !isTextIntegration e && !isHtmlIntegration e
    | .startTag tag =>
      !(isTextIntegration e && tag.name != "mglyph" && tag.name != "malignmark") &&
        !isHtmlIntegration e &&
        !(e.vocabulary == .mathml && e.name == "annotation-xml" && tag.name == "svg")
    | _ => true

def isForeign (b : Builder) (t : Token) : Bool := b.stack.head?.any (isForeignIn · t)

/-- Whether the current element is not one of HTML. -/
def inForeign (b : Builder) : Bool := b.stack.head?.any (·.vocabulary != .html)

/-- Closes elements until HTML may stand in the current one. -/
def leaveForeign (b : Builder) : Builder :=
  { b with stack := b.stack.dropWhile fun e =>
      e.vocabulary != .html && !isTextIntegration e && !isHtmlIntegration e }

/-- An element of the vocabulary of the current one. -/
def insertAlike (b : Builder) (tag : Tag) : Builder :=
  match b.stack.head? with
  | none => b
  | some e =>
    let name := if e.vocabulary == .svg then svgName tag.name else tag.name
    b.insertForeign e.vocabulary { tag with name }

/-- What an end tag does inside other vocabularies: it closes the innermost element of its name, in
small or capital letters. An HTML element on the way there ends the search. -/
inductive ForeignEnd where
  | close (stack : List Open)
  | asHtml
  | ignore

def foreignEnd (name : String) : List Open → ForeignEnd
  | [] => .ignore
  | [_] => .ignore
  | e :: below =>
    if e.vocabulary == .html then .asHtml
    else if e.name.toLower = name then .close below
    else foreignEnd name below

/-- The rules for tokens inside other vocabularies, given those for the current mode. -/
def foreign (b : Builder) (rules : Builder → Token → Step) (t : Token) : Step :=
  match t with
  | .char c =>
    if c = '\x00' then done (b.addChar Text.replacement)
    else if isSpace c then done (b.addChar c)
    else done (b.addChar c).weighty
  | .startTag tag =>
    if isBreakout tag then rules b.leaveForeign t else done (b.insertAlike tag)
  | .endTag name =>
    if name = "br" || name = "p" then rules b.leaveForeign t
    else match foreignEnd name b.stack with
      | .close stack => done { b with stack }
      | .asHtml => rules b t
      | .ignore => done b
  | _ => done b

end DocAnswers.Html.Tree.Builder
