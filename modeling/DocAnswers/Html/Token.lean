import DocAnswers.Html.Element
import DocAnswers.Text.Utf8

/-! The tokens of an HTML text. -/
namespace DocAnswers.Html

structure Tag where
  name : String
  attributes : List Attribute := []
  /-- Whether a slash stands before the closing bracket. -/
  selfClosing : Bool := false
deriving DecidableEq, Repr

structure Doctype where
  name : Option String := none
  publicId : Option String := none
  systemId : Option String := none
  /-- Whether the declaration is broken off or malformed. -/
  malformed : Bool := false
deriving DecidableEq, Repr

inductive Token where
  | doctype (d : Doctype)
  | startTag (tag : Tag)
  | endTag (name : String)
  /-- Comments and processing instructions. Their text is of no interest. -/
  | comment
  | char (c : Char)
  | eof
deriving DecidableEq, Repr

/-- How the text at the front is to be read. -/
inductive ContentModel where
  | markup
  /-- Text up to the end tag of an element, with character references. -/
  | escapable (name : String)
  /-- Text up to the end tag of an element. -/
  | raw (name : String)
  /-- Text up to the end tag of a script, with commented parts. -/
  | script
  /-- Text up to the end. -/
  | plain
deriving DecidableEq, Repr

/-- The white space of markup. -/
def isSpace (c : Char) : Bool := c == '\t' || c == '\n' || c == '\x0c' || c == '\r' || c == ' '

def toLower (cs : List Char) : List Char := cs.map Char.toLower

/-- NUL is not kept in names, values and raw text. -/
def replaceNul (cs : List Char) : List Char := cs.map fun c => if c = '\x00' then Text.replacement else c

end DocAnswers.Html
