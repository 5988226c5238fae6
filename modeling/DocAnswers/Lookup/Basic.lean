import DocAnswers.Lookup.Answer
import DocAnswers.Lookup.Search

/-! Looking up an answer: a search, the page of the first hit, and the best answer there. Whatever goes
wrong on the way, there is an answer, if only the one that says that there is none. -/
namespace DocAnswers

structure Lookup where
  engine : Engine := {}
  fetch : Fetcher

namespace Lookup

def hits (query : String) (links : List String) : Log.Event :=
  { level := .debug, topic := .lookup, message := "search hits",
    fields := [("query", .quoted query), ("hits", .bare (toString links.length))] }

def noHits : Log.Event :=
  { level := .debug, topic := .lookup, message := "no search hits to extract an answer from" }

/-- What is noted about the answer on a page. -/
def outcome (p : Page) : Option Answer.Candidate → Log.Event
  | some c =>
    { level := .debug, topic := .lookup, message := "extracted answer",
      fields := [("url", .quoted p.url), ("kind", .bare c.kind.name)] }
  | none =>
    { level := .debug, topic := .lookup, message := "no answer on page",
      fields := [("url", .quoted p.url)] }

/-- The links to the hits for a query, the best first. -/
def findLinks (l : Lookup) (query : String) : Traced (List String) := do
  let page ← Page.load l.fetch (l.engine.url query)
  let links := Search.links page
  Traced.note (hits query links)
  return links

/-- The best answer behind the first of some links. -/
def candidate? (l : Lookup) (links : List String) : Traced (Option Answer.Candidate) :=
  match links with
  | [] => do
    Traced.note noHits
    return none
  | first :: _ => do
    let page ← Page.load l.fetch (Answer.url first)
    let candidate := Answer.extract? page
    Traced.note (outcome page candidate)
    return candidate

def textOf (candidate : Option Answer.Candidate) : String :=
  (candidate.map (·.text)).getD Answer.absent

/-- The text of the best answer behind the first of some links. -/
def extract (l : Lookup) (links : List String) : Traced String := do
  return textOf (← l.candidate? links)

/-- The answer to a query. -/
def search (l : Lookup) (query : String) : Traced String := do
  let links ← l.findLinks query
  l.extract links

end Lookup
end DocAnswers
