import DocAnswers.Lookup.Basic
import Mathlib

/-! The pages that a lookup asks for, and that it depends on nothing else. The first page is the one
of the search; if there is a second one, the first names it. -/
namespace DocAnswers

namespace Page

theorem received_text (url : String) (answer : Except FetchError String) :
    (received url answer).2 = answer.toOption.getD "" := by
  cases answer <;> rfl

/-- All failures lead to the same page. -/
theorem load_value (fetch : Fetcher) (url : String) :
    (load fetch url).value = ofText url ((fetch url).toOption.getD "") := by
  rw [← received_text url]
  rfl

end Page

namespace Lookup

theorem findLinks_value (l : Lookup) (query : String) :
    (l.findLinks query).value = Search.links (Page.load l.fetch (l.engine.url query)).value := rfl

theorem requests_findLinks (l : Lookup) (query : String) :
    Effect.requests (l.findLinks query).effects = [l.engine.url query] := rfl

theorem requests_candidate? (l : Lookup) (links : List String) :
    Effect.requests (l.candidate? links).effects = (links.head?.map Answer.url).toList := by
  cases links <;> rfl

theorem requests_extract (l : Lookup) (links : List String) :
    Effect.requests (l.extract links).effects = (links.head?.map Answer.url).toList := by
  cases links <;> rfl

theorem requests_search (l : Lookup) (query : String) :
    Effect.requests (l.search query).effects =
      l.engine.url query :: ((l.findLinks query).value.head?.map Answer.url).toList := by
  simp only [search, Traced.bind_effects, Effect.requests_append, requests_findLinks,
    requests_extract, List.singleton_append]

theorem links_blank (url : String) : Search.links (Page.ofText url "") = [] := by
  cbv

/-- Where the search itself fails, the answer is that there is none. -/
theorem search_of_failed {l : Lookup} {query : String}
    (failed : l.fetch (l.engine.url query) = .error e) : (l.search query).value = Answer.absent := by
  have links : (l.findLinks query).value = [] := by
    rw [findLinks_value, Page.load_value, failed]
    exact links_blank _
  rw [search, Traced.bind_value, links]
  rfl

section Congruence
variable {engine : Engine} {fetch other : Fetcher}

theorem findLinks_congr (query : String)
    (agree : (fetch (engine.url query)).toOption = (other (engine.url query)).toOption) :
    (Lookup.findLinks ⟨engine, other⟩ query).value =
      (Lookup.findLinks ⟨engine, fetch⟩ query).value := by
  simp only [findLinks_value, Page.load_value, agree]

theorem extract_congr (links : List String)
    (agree : ∀ first ∈ links.head?,
      (fetch (Answer.url first)).toOption = (other (Answer.url first)).toOption) :
    (Lookup.extract ⟨engine, other⟩ links).value =
      (Lookup.extract ⟨engine, fetch⟩ links).value := by
  cases links with
  | nil => rfl
  | cons first rest =>
    have page : (Page.load other (Answer.url first)).value =
        (Page.load fetch (Answer.url first)).value := by
      simp only [Page.load_value, agree first rfl]
    exact congrArg (textOf ∘ Answer.extract?) page

end Congruence

/-- A lookup asks for the page of its search and for the page behind the first link there, if there
is one. Whoever serves these two alike, up to the reason of a failure, gets the same lookup. -/
theorem search_asks_two_pages (l : Lookup) (query : String) :
    Effect.requests (l.findLinks query).effects = [l.engine.url query] ∧
    (∀ links, Effect.requests (l.candidate? links).effects = (links.head?.map Answer.url).toList) ∧
    (∀ links, Effect.requests (l.extract links).effects = (links.head?.map Answer.url).toList) ∧
    (∀ first rest rest',
      (l.candidate? (first :: rest)).value = (l.candidate? (first :: rest')).value ∧
      (l.extract (first :: rest)).value = (l.extract (first :: rest')).value) ∧
    Effect.requests (l.search query).effects =
      l.engine.url query ::
        ((Search.links (Page.load l.fetch (l.engine.url query)).value).head?.map
          Answer.url).toList ∧
    ∀ other : Fetcher,
      (∀ url ∈ Effect.requests (l.search query).effects,
        (l.fetch url).toOption = (other url).toOption) →
      Effect.requests (Lookup.search ⟨l.engine, other⟩ query).effects =
        Effect.requests (l.search query).effects ∧
      (Lookup.search ⟨l.engine, other⟩ query).value = (l.search query).value := by
  refine ⟨requests_findLinks l query, requests_candidate? l, requests_extract l,
    fun _ _ _ => ⟨rfl, rfl⟩, requests_search l query, ?_⟩
  intro other agree
  rw [requests_search] at agree
  -- With the same first page both go on to the same second page.
  have links : (Lookup.findLinks ⟨l.engine, other⟩ query).value = (l.findLinks query).value :=
    findLinks_congr query (agree _ List.mem_cons_self)
  refine ⟨?_, ?_⟩
  · rw [requests_search, requests_search, links]
  · simp only [search, Traced.bind_value, links]
    apply extract_congr
    intro first top
    apply agree
    rw [Option.mem_def.mp top]
    exact .tail _ List.mem_cons_self

/-- A server with one page of hits, and one that lacks the page of the first hit for another reason
and has something to say about everything else. -/
theorem search_asks_two_pages_missing :
    let hits : Except FetchError String := .ok "<a class=\"l\" href=\"/u\">x</a>"
    let refusing : Fetcher := fun url =>
      if url = "e?q=site:s%20q" then hits else .error (.status url 404)
    let talkative : Fetcher := fun url =>
      if url = "e?q=site:s%20q" then hits
      else if url = "/u?answertab=votes" then .error (.body url "closed")
      else .ok "elsewhere"
    let asked := ["e?q=site:s%20q", "/u?answertab=votes"]
    Effect.requests (Lookup.search ⟨⟨"e", "s"⟩, refusing⟩ "q").effects = asked ∧
      Effect.requests (Lookup.search ⟨⟨"e", "s"⟩, talkative⟩ "q").effects = asked ∧
      (Lookup.search ⟨⟨"e", "s"⟩, talkative⟩ "q").value =
        (Lookup.search ⟨⟨"e", "s"⟩, refusing⟩ "q").value := by
  intro hits refusing talkative asked
  have address : Engine.url ⟨"e", "s"⟩ "q" = "e?q=site:s%20q" := by rfl
  have found : Search.links (Page.load refusing "e?q=site:s%20q").value = ["/u"] := by
    have served : refusing "e?q=site:s%20q" = hits := if_pos rfl
    rw [Page.load_value, served]
    cbv
  have requests : Effect.requests (Lookup.search ⟨⟨"e", "s"⟩, refusing⟩ "q").effects = asked := by
    rw [requests_search, findLinks_value]
    simp only [address, found]
    rfl
  have agree : ∀ url ∈ Effect.requests (Lookup.search ⟨⟨"e", "s"⟩, refusing⟩ "q").effects,
      (refusing url).toOption = (talkative url).toOption := by
    rw [requests]
    intro url member
    simp only [asked, List.mem_cons, List.not_mem_nil, or_false] at member
    obtain rfl | rfl := member <;> rfl
  have both := (search_asks_two_pages ⟨⟨"e", "s"⟩, refusing⟩ "q").2.2.2.2.2 talkative agree
  exact ⟨requests, both.1.trans requests, both.2⟩

end Lookup
end DocAnswers
