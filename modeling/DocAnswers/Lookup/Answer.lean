import DocAnswers.Lookup.Page

/-! Answers on a page. Only the first answer counts. Of what stands in it, a code block is preferred to
inline code, and that to prose. -/
namespace DocAnswers.Answer
open Html Text

inductive Kind where
  | codeBlock
  | inlineCode
  | prose
deriving DecidableEq, Repr

namespace Kind

/-- The kinds, the preferred ones first. -/
def order : List Kind := [codeBlock, inlineCode, prose]

def name : Kind → String
  | codeBlock => "code block"
  | inlineCode => "inline code"
  | prose => "prose"

def selector : Kind → Selector
  | codeBlock => .type "pre"
  | inlineCode => .type "code"
  | prose => .hasClass "post-text"

/-- Code keeps its inner white space, and prose is put on one line. -/
def normalize : Kind → List Char → List Char
  | codeBlock, raw => trim raw
  | inlineCode, raw => trim raw
  | prose, raw => join [' '] (words raw)

end Kind

structure Candidate where
  kind : Kind
  text : String
deriving DecidableEq, Repr

/-- What an answer has of some kind, which is the first such element unless that is blank. -/
def candidate? (answer : Located) (kind : Kind) : Option Candidate := do
  let node ← (answer.find kind.selector).head?
  let text := kind.normalize node.text.toList
  if text.isEmpty then none else some ⟨kind, String.ofList text⟩

/-- The best that a page has to offer. -/
def extract? (p : Page) : Option Candidate := do
  let answer ← p.nth? (.hasClass "answer") 0
  Kind.order.findSome? (candidate? answer)

/-- What is said instead of an answer where there is none. -/
def absent : String := "< no answer given >"

/-- What a search engine may put before the target of a link. -/
def redirect : String := "/url?q="

/-- The URL of a page of answers that a link leads to, with the best answers first. -/
def url (link : String) : String :=
  String.ofList ((after? redirect.toList link.toList).getD link.toList) ++ "?answertab=votes"

end DocAnswers.Answer
