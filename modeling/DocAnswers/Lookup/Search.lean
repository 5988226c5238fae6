import DocAnswers.Lookup.Page
import DocAnswers.Text.PercentEncoding

/-! Searching a site with a search engine: the query, its URL and the links on the page of hits. -/
namespace DocAnswers

/-- A search engine, and the site to which it is restricted. -/
structure Engine where
  endpoint : String := "https://www.google.com/search"
  site : String := "stackoverflow.com"
deriving DecidableEq, Repr

/-- The URL that asks for a query. -/
def Engine.url (e : Engine) (query : String) : String :=
  e.endpoint ++ "?q=site:" ++ e.site ++ "%20" ++ Text.PercentEncoding.encode query

namespace Search
open Html

/-- What to search for to get an answer to a comment, in a language if one is named. -/
def query (comment : String) (language : Option String := none) : String :=
  match language with
  | none => comment
  | some l => comment ++ " in " ++ l

def primary : Selector := .hasClass "l"

/-- Links inside something of class `r`. -/
def secondary : Selector :=
  [{ subject := [.type "a"], around := [(.within, [.hasClass "r"])] }]

/-- The targets of the links that a selector accepts. -/
def targets (p : Page) (s : Selector) : List String :=
  (p.select s).filterMap (·.element.attribute? "href")

/-- The links to the hits. The secondary ones count only where there are no primary ones. -/
def links (p : Page) : List String :=
  let found := targets p primary
  if found.isEmpty then targets p secondary else found

end Search
end DocAnswers
