import DocAnswers.Effect
import DocAnswers.Html.Selector
import DocAnswers.Lookup.Fetch

/-! Pages are what stands at a URL, read as HTML. There is a page for every URL: where nothing can be
fetched the page is empty and the failure is only noted. -/
namespace DocAnswers
open Html

namespace Html.Located

/-- The elements inside an element that a selector accepts. What stands around the element counts for
the selector. -/
def find (l : Located) (s : Selector) : List Located := l.descendants.filter s.accepts

end Html.Located

structure Page where
  url : String
  document : Document

namespace Page

def ofText (url text : String) : Page := ⟨url, Document.ofText text⟩

def select (p : Page) (s : Selector) : List Located := p.document.elements.filter s.accepts

def nth? (p : Page) (s : Selector) (n : Nat) : Option Located := (p.select s)[n]?

def retrieved (url text : String) : Log.Event :=
  { level := .debug, topic := .page, message := "retrieved page",
    fields := [("url", .quoted url), ("bytes", .bare (toString text.utf8ByteSize))] }

def failed (url : String) (e : FetchError) : Log.Event :=
  { level := .error, topic := .page, message := "Error retrieving URL",
    fields := [("url", .quoted url), ("error", .bare e.message)] }

/-- The text of a page, and what is noted about it. -/
def received (url : String) : Except FetchError String → Log.Event × String
  | .ok text => (retrieved url text, text)
  | .error e => (failed url e, "")

/-- Fetches a page. -/
def load (fetch : Fetcher) (url : String) : Traced Page := do
  Traced.act (.request url)
  let (event, text) := received url (fetch url)
  Traced.note event
  return ofText url text

end Page
end DocAnswers
