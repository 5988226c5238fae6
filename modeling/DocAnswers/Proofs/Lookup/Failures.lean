import DocAnswers.Proofs.Html.Marked
import DocAnswers.Proofs.Lookup.Requests

/-! Lookups whose fetches fail. The page of a failed fetch is blank. There are elements even on a blank
page, but none of them has an attribute, so that nothing is found there, and a lookup cannot tell the
failure from an empty page that was served. -/
namespace DocAnswers
open Html

/-- Whether another fetcher serves the same, except that it may serve an empty text where this one
fails. -/
def Fetcher.Excuses (fetch other : Fetcher) : Prop :=
  ∀ url, other url = fetch url ∨ (∃ e, fetch url = .error e) ∧ other url = .ok ""

/-- Whether another computation asks for the same pages and has the same result. -/
def Traced.Alike (m other : Traced α) : Prop :=
  Effect.requests other.effects = Effect.requests m.effects ∧ other.value = m.value

namespace Page
variable {fetch : Fetcher} {url : String}

theorem load_failed (failed : fetch url = .error e) : (load fetch url).value = ofText url "" := by
  rw [load_value, failed]
  rfl

theorem load_excused (excuses : fetch.Excuses other) (url : String) :
    (load other url).value = (load fetch url).value := by
  rcases excuses url with same | ⟨⟨e, failed⟩, empty⟩
  · rw [load_value, load_value, same]
  · rw [load_failed failed, load_value, empty]
    rfl

theorem bare_of_mem_blank (member : l ∈ (ofText url "").document.elements) :
    ∀ e ∈ l.element :: l.around, e.attributes = [] := by
  have all : (Document.ofText "").elements.all
      (fun l => (l.element :: l.around).all (·.attributes.isEmpty)) = true := by cbv
  intro e among
  exact List.isEmpty_iff.mp (List.all_eq_true.mp (List.all_eq_true.mp all l member) e among)

theorem select_blank {s : Selector} (url : String) (marked : s.isMarked = true) :
    (ofText url "").select s = [] := by
  refine List.filter_eq_nil_iff.mpr fun l member accepts => ?_
  rw [Selector.not_accepts_of_bare marked (bare_of_mem_blank member)] at accepts
  contradiction

theorem extract?_blank (url : String) : Answer.extract? (ofText url "") = none := by
  have first : (ofText url "").nth? (.hasClass "answer") 0 = none := by
    rw [nth?, select_blank url (by rfl)]
    rfl
  rw [Answer.extract?, first]
  rfl

end Page

namespace Lookup
variable {engine : Engine} {fetch other : Fetcher}

section Alike
variable (pages : ∀ url, (Page.load other url).value = (Page.load fetch url).value)
include pages

theorem findLinks_alike (query : String) :
    (findLinks ⟨engine, fetch⟩ query).Alike (findLinks ⟨engine, other⟩ query) := by
  refine ⟨?_, ?_⟩
  · rw [requests_findLinks, requests_findLinks]
  · rw [findLinks_value, findLinks_value, pages]

theorem candidate?_alike (links : List String) :
    (candidate? ⟨engine, fetch⟩ links).Alike (candidate? ⟨engine, other⟩ links) := by
  refine ⟨?_, ?_⟩
  · rw [requests_candidate?, requests_candidate?]
  · cases links with
    | nil => rfl
    | cons first rest => exact congrArg Answer.extract? (pages _)

theorem extract_alike (links : List String) :
    (extract ⟨engine, fetch⟩ links).Alike (extract ⟨engine, other⟩ links) := by
  refine ⟨?_, congrArg textOf (candidate?_alike pages links).2⟩
  rw [requests_extract, requests_extract]

theorem search_alike (query : String) :
    (search ⟨engine, fetch⟩ query).Alike (search ⟨engine, other⟩ query) := by
  have links : (findLinks ⟨engine, other⟩ query).value = (findLinks ⟨engine, fetch⟩ query).value :=
    (findLinks_alike pages query).2
  refine ⟨?_, ?_⟩
  · rw [requests_search, requests_search, links]
  · simp only [search, Traced.bind_value, links]
    exact (extract_alike pages _).2

end Alike

theorem requests_search_of_failed {l : Lookup} {query : String}
    (failed : l.fetch (l.engine.url query) = .error e) :
    Effect.requests (l.search query).effects = [l.engine.url query] := by
  rw [requests_search, findLinks_value, Page.load_failed failed, links_blank]
  rfl

theorem extract_cons_value (l : Lookup) (first : String) (rest : List String) :
    (l.extract (first :: rest)).value =
      textOf (Answer.extract? (Page.load l.fetch (Answer.url first)).value) := rfl

/-- Where the page behind a link cannot be fetched, the answer is that there is none. -/
theorem extract_of_failed {l : Lookup} {first : String} (rest : List String)
    (failed : l.fetch (Answer.url first) = .error e) :
    (l.extract (first :: rest)).value = Answer.absent := by
  rw [extract_cons_value, Page.load_failed failed, Page.extract?_blank]
  rfl

theorem search_of_failed_request {l : Lookup} {query url : String}
    (asked : url ∈ Effect.requests (l.search query).effects) (failed : l.fetch url = .error e) :
    (l.search query).value = Answer.absent := by
  rw [requests_search] at asked
  -- The second page is asked for only if the first one was there and had a link.
  rcases List.mem_cons.mp asked with rfl | second
  · exact search_of_failed failed
  · rw [search, Traced.bind_value]
    cases links : (l.findLinks query).value with
    | nil =>
      rw [links] at second
      contradiction
    | cons first rest =>
      rw [links] at second
      obtain rfl := List.mem_singleton.mp second
      exact extract_of_failed rest failed

/-- On the page of a failed fetch nothing is found by a selector that looks for a class or an id in each
of its alternatives, nor would it be if these had tests and relations of other kinds. Whoever serves
empty pages in place of any failures gets the same lookups, and one with a failure on its way finds no
answer. -/
theorem failures_find_nothing (l : Lookup) :
    (∀ url e, l.fetch url = .error e →
      let page := (Page.load l.fetch url).value
      page.url = url ∧
      (∀ s : Selector, s.isMarked = true → page.select s = []) ∧
      (∀ row : WideChain, row.isMarked = true →
        ∀ m ∈ page.document.elements, ¬row.Picks page.document.elements m) ∧
      Search.links page = [] ∧ Answer.extract? page = none) ∧
    (∀ other, l.fetch.Excuses other → ∀ query links,
      (l.findLinks query).Alike (findLinks ⟨l.engine, other⟩ query) ∧
      (l.candidate? links).Alike (candidate? ⟨l.engine, other⟩ links) ∧
      (l.extract links).Alike (extract ⟨l.engine, other⟩ links) ∧
      (l.search query).Alike (search ⟨l.engine, other⟩ query)) ∧
    (∀ query e, l.fetch (l.engine.url query) = .error e →
      Effect.requests (l.search query).effects = [l.engine.url query]) ∧
    ∀ query, ∀ url ∈ Effect.requests (l.search query).effects, ∀ e, l.fetch url = .error e →
      (l.search query).value = Answer.absent := by
  refine ⟨?_, ?_, fun query e failed => requests_search_of_failed failed,
    fun query url asked e failed => search_of_failed_request asked failed⟩
  · intro url e failed page
    have blank : page = Page.ofText url "" := Page.load_failed failed
    rw [blank]
    refine ⟨rfl, fun s marked => Page.select_blank url marked, fun row marked m among => ?_,
      links_blank url, Page.extract?_blank url⟩
    refine WideChain.not_picks_of_bare marked (fun m member => ?_) among
    exact Page.bare_of_mem_blank member _ List.mem_cons_self
  · intro other excuses query links
    have pages := Page.load_excused excuses
    exact ⟨findLinks_alike pages query, candidate?_alike pages links, extract_alike pages links,
      search_alike pages query⟩

/-- A server that has no page but that of the search, and one that sends an empty page for the hit. -/
theorem failures_find_nothing_missing :
    let refusing : Fetcher := fun url =>
      if url = "e?q=site:s%20q" then .ok "<a class=l href=/u>" else .error (.status url 404)
    let sparing : Fetcher := fun url =>
      if url = "/u?answertab=votes" then .ok "" else refusing url
    let asked := ["e?q=site:s%20q", "/u?answertab=votes"]
    refusing.Excuses sparing ∧
      Effect.requests (search ⟨⟨"e", "s"⟩, refusing⟩ "q").effects = asked ∧
      (search ⟨⟨"e", "s"⟩, refusing⟩ "q").value = Answer.absent ∧
      Effect.requests (search ⟨⟨"e", "s"⟩, sparing⟩ "q").effects = asked ∧
      (search ⟨⟨"e", "s"⟩, sparing⟩ "q").value = Answer.absent ∧
      (Page.load refusing "/u?answertab=votes").value.select Search.secondary = [] := by
  intro refusing sparing asked
  have missing : refusing "/u?answertab=votes" = .error (.status "/u?answertab=votes" 404) := by rfl
  have excuses : refusing.Excuses sparing := by
    intro url
    by_cases hit : url = "/u?answertab=votes"
    · subst hit
      exact .inr ⟨⟨_, missing⟩, if_pos rfl⟩
    · exact .inl (if_neg hit)
  have links : Search.links (Page.load refusing "e?q=site:s%20q").value = ["/u"] := by cbv
  have requests : Effect.requests (search ⟨⟨"e", "s"⟩, refusing⟩ "q").effects = asked := by
    have address : Engine.url ⟨"e", "s"⟩ "q" = "e?q=site:s%20q" := by rfl
    rw [requests_search, findLinks_value]
    simp only [address, links]
    rfl
  obtain ⟨pages, spared, -, failed⟩ := failures_find_nothing ⟨⟨"e", "s"⟩, refusing⟩
  obtain ⟨-, select, -, -, -⟩ := pages "/u?answertab=votes" _ missing
  obtain ⟨-, -, -, same⟩ := spared sparing excuses "q" []
  have absent : (search ⟨⟨"e", "s"⟩, refusing⟩ "q").value = Answer.absent :=
    failed "q" "/u?answertab=votes" (requests ▸ by simp [asked]) _ missing
  exact ⟨excuses, requests, absent, same.1.trans requests, same.2.trans absent, select _ (by rfl)⟩

end Lookup
end DocAnswers
