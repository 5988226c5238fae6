import DocAnswers.Proofs.Html.Marked
import DocAnswers.Proofs.Html.PageContents
import DocAnswers.Proofs.Lookup.Requests
import DocAnswers.Proofs.Text.PercentEncoding
import DocAnswers.Proofs.Text.Trim

/-! A lookup from its query to its answer, for a page of links and a page with one block of code: what
was written into the markup comes back as it was. -/
namespace DocAnswers
open Html Text

/-- A search is never asked for where an answer is: behind the last equals sign of the one URL is a
percent sign, and there is none behind that of the other one. -/
theorem Engine.url_ne_answer (engine : Engine) (query link : String) :
    engine.url query ≠ Answer.url link := by
  intro same
  have same := congrArg String.toList same
  have query' : (engine.url query).toList =
      (engine.endpoint ++ "?q=site:" ++ engine.site).toList ++
        (['%', '2', '0'] ++ (PercentEncoding.encode query).toList) := by
    simp [Engine.url]
  obtain ⟨front, answer⟩ : ∃ front, (Answer.url link).toList =
      front ++ ['=', 'v', 'o', 't', 'e', 's'] := by
    let target := (after? Answer.redirect.toList link.toList).getD link.toList
    refine ⟨target ++ ['?', 'a', 'n', 's', 'w', 'e', 'r', 't', 'a', 'b'], ?_⟩
    simp [Answer.url, target]
  rw [query', answer, List.append_eq_append_iff] at same
  rcases same with ⟨middle, -, tail⟩ | ⟨middle, -, tail⟩
  · have sign : '=' ∈ ['%', '2', '0'] ++ (PercentEncoding.encode query).toList := by
      simp [tail]
    rcases List.mem_append.mp sign with digits | encoded
    · exact absurd digits (by decide)
    · exact (PercentEncoding.encoded_encode query).not_mem (by decide) (by decide) encoded
  · have sign : '%' ∈ ['=', 'v', 'o', 't', 'e', 's'] := by
      simp [tail]
    exact absurd sign (by decide)

/-- Text as it is written into markup. -/
def escaped (text : String) : String := String.ofList (CharRef.escape text.toList)

/-- A page that has links to some hits on it. -/
def linkPage (links : List String) : String :=
  String.join (links.map fun link => "<a class=\"l\" href=\"" ++ escaped link ++ "\">x</a>")

/-- A page with an answer on it that consists of code. -/
def codePage (code : String) : String :=
  "<div class=\"answer\"><pre>" ++ escaped code ++ "</pre></div>"

theorem toList_linkPage (links : List String) :
    (linkPage links).toList = (links.map String.toList).flatMap linkText := by
  rw [linkPage, String.toList_join, List.flatMap_map, List.flatMap_map]
  apply List.flatMap_congr
  intro link _
  have letter : CharRef.escape ['l'] = ['l'] := by rfl
  simp [letter, escaped, linkText, linkAttributes, TagScan.tagText, TagScan.written]

theorem toList_codePage (code : String) : (codePage code).toList = codeText code.toList := by
  have name : CharRef.escape ['a', 'n', 's', 'w', 'e', 'r'] = ['a', 'n', 's', 'w', 'e', 'r'] := by
    decide
  have front : "<div class=\"answer\"><pre>".toList =
      '<' :: TagScan.tagText ['d', 'i', 'v']
          [(['c', 'l', 'a', 's', 's'], ['a', 'n', 's', 'w', 'e', 'r'])] ++
        '<' :: TagScan.tagText ['p', 'r', 'e'] [] := by
    simp [TagScan.tagText, TagScan.written, name]
  have back : "</pre></div>".toList =
      '<' :: '/' :: TagScan.tagText ['p', 'r', 'e'] [] ++
        '<' :: '/' :: TagScan.tagText ['d', 'i', 'v'] [] := by
    simp [TagScan.tagText]
  unfold codePage
  generalize "<div class=\"answer\"><pre>" = opening at front ⊢
  generalize "</pre></div>" = closing at back ⊢
  rw [String.toList_append, String.toList_append, front, back, escaped, String.toList_ofList,
    codeText]
  simp only [List.append_assoc, List.cons_append]

/-- What is not changed before markup is read. -/
def IsPlain (text : String) : Prop := '\x00' ∉ text.toList ∧ '\r' ∉ text.toList

theorem not_mem_escape (without : '\r' ∉ cs) : '\r' ∉ CharRef.escape cs := by
  intro member
  rcases (CharRef.of_mem_escape member).2 with inside | letter
  · exact without inside
  · exact absurd letter (by decide)

theorem ofText_linkPage (nonempty : links ≠ []) (plain : ∀ link ∈ links, IsPlain link) :
    Document.ofText (linkPage links) =
      framing (((links.map String.toList).zipIdx 4).map linkContent) := by
  have nonempty' : links.map String.toList ≠ [] := by simpa using nonempty
  have plain' : ∀ t ∈ links.map String.toList, '\x00' ∉ t := by
    intro t member
    obtain ⟨link, among, rfl⟩ := List.mem_map.mp member
    exact (plain link among).1
  have unmarked : ((links.map String.toList).flatMap linkText).head? ≠ some '\ufeff' := by
    cases links with
    | nil => contradiction
    | cons link links => simp [linkText]
  have unreturned : '\r' ∉ (links.map String.toList).flatMap linkText := by
    intro member
    obtain ⟨t, among, written⟩ := List.mem_flatMap.mp member
    obtain ⟨link, listed, rfl⟩ := List.mem_map.mp among
    have name : '\r' ∉ CharRef.escape ['l'] := not_mem_escape (by decide)
    simp [linkText, linkAttributes, TagScan.tagText, TagScan.written, name,
      not_mem_escape (plain link listed).2] at written
  rw [Document.ofText, toList_linkPage, Token.prepare_of_not_mem unmarked unreturned,
    run_linkTexts nonempty' plain', foldl_withLink, ofArena_linkNodes]

theorem ofText_codePage (plain : IsPlain code) :
    Document.ofText (codePage code) =
      framing [.element 4 answerElement
        [.element 5 codeElement ((afterNewline code.toList).map .char)]] := by
  have name : '\r' ∉ CharRef.escape ['a', 'n', 's', 'w', 'e', 'r'] := not_mem_escape (by decide)
  have unmarked : (codeText code.toList).head? ≠ some '\ufeff' := by simp [codeText]
  have unreturned : '\r' ∉ codeText code.toList := by
    simp [codeText, TagScan.tagText, TagScan.written, name, not_mem_escape plain.2]
  rw [Document.ofText, toList_codePage, Token.prepare_of_not_mem unmarked unreturned,
    run_codeText plain.1, coded_eq, ofArena_codeNodes]

theorem not_accepts_of_attributes {l : Located} (bare : l.element.attributes = []) (name : String) :
    (Selector.hasClass name).accepts l = false := by
  have fails := Test.not_accepts_of_bare (t := .hasClass name) rfl bare
  simp [Selector.accepts, Selector.hasClass, Chain.accepts, Compound.accepts, fails]

theorem select_of_elements {p : Page} {outer inner : List Located}
    (elements : p.document.elements = outer ++ inner)
    (bare : ∀ l ∈ outer, l.element.attributes = []) (name : String) :
    p.select (.hasClass name) = inner.filter (Selector.hasClass name).accepts := by
  have nothing : outer.filter (Selector.hasClass name).accepts = [] := by
    apply List.filter_eq_nil_iff.mpr
    intro l member
    simp [not_accepts_of_attributes (bare l member)]
  rw [Page.select, elements, List.filter_append, nothing, List.nil_append]

theorem accepts_linkLocated (link : List Char × Nat) :
    Search.primary.accepts (linkLocated link) = true := by
  have value : (linkElement (String.ofList link.1)).attribute? "class" = some "l" := by
    simp [linkElement, linkTag, Element.attribute?]
  have classes : (linkElement (String.ofList link.1)).classes = ["l"] := by
    rw [Element.classes, value]
    rfl
  simp [Search.primary, Selector.accepts, Selector.hasClass, Chain.accepts, Compound.accepts,
    Test.accepts, linkLocated, classes, Chain.fits]

theorem attribute?_linkLocated (link : List Char × Nat) :
    (linkLocated link).element.attribute? "href" = some (String.ofList link.1) := by
  simp [linkLocated, linkElement, linkTag, Element.attribute?]

/-- The links on a page of links. -/
theorem links_linkPage (nonempty : links ≠ []) (plain : ∀ link ∈ links, IsPlain link) (url : String) :
    Search.links (Page.ofText url (linkPage links)) = links := by
  obtain ⟨outer, elements, bare⟩ := elements_links (links.map String.toList)
  rw [← ofText_linkPage nonempty plain] at elements
  have selected : (Page.ofText url (linkPage links)).select Search.primary =
      ((links.map String.toList).zipIdx 4).map linkLocated := by
    rw [Search.primary, select_of_elements elements bare]
    apply List.filter_eq_self.mpr
    intro l member
    obtain ⟨link, -, rfl⟩ := List.mem_map.mp member
    exact accepts_linkLocated link
  have found : Search.targets (Page.ofText url (linkPage links)) Search.primary = links := by
    have targets : (fun l : Located => l.element.attribute? "href") ∘ linkLocated =
        some ∘ String.ofList ∘ Prod.fst := funext attribute?_linkLocated
    rw [Search.targets, selected, List.filterMap_map, targets, List.filterMap_eq_map,
      ← List.map_map, List.zipIdx_map_fst, List.map_map]
    simp
  rw [Search.links, found]
  simp [nonempty]

theorem accepts_answerLocated (text : List Char) :
    (Selector.hasClass "answer").accepts (answerLocated text) = true := by
  have value : answerElement.attribute? "class" = some "answer" := by
    simp [answerElement, Element.attribute?]
  have classes : answerElement.classes = ["answer"] := by
    rw [Element.classes, value]
    cbv
  simp [Selector.accepts, Selector.hasClass, Chain.accepts, Compound.accepts,
    Test.accepts, answerLocated, classes, Chain.fits]

theorem accepts_codeLocated (text : List Char) :
    (Selector.type "pre").accepts (codeLocated text) = true := by
  have name : String.ofList (toLower ['p', 'r', 'e']) = "pre" := by decide
  simp [Selector.accepts, Selector.type, Chain.accepts, Compound.accepts, Test.accepts, codeLocated,
    codeElement, Chain.fits, name]

theorem trim_afterNewline (cs : List Char) : trim (afterNewline cs) = trim cs := by
  fun_cases afterNewline cs with
  | case1 cs =>
    have blank : isBlank '\n' = true := by decide
    rw [trim, trim, trimStart, trimStart, List.dropWhile_cons_of_pos blank]
  | case2 => rfl

/-- The answer on a page with a block of code. -/
theorem extract?_codePage (plain : IsPlain code) (solid : ∃ c ∈ code.toList, isBlank c = false)
    (url : String) :
    Answer.extract? (Page.ofText url (codePage code)) =
      some ⟨.codeBlock, String.ofList (trim code.toList)⟩ := by
  obtain ⟨outer, elements, bare⟩ := elements_code (afterNewline code.toList)
  rw [← ofText_codePage plain] at elements
  have answer : (Page.ofText url (codePage code)).nth? (.hasClass "answer") 0 =
      some (answerLocated (afterNewline code.toList)) := by
    rw [Page.nth?, select_of_elements elements bare,
      List.filter_cons_of_pos (accepts_answerLocated _)]
    rfl
  have block : (answerLocated (afterNewline code.toList)).find Answer.Kind.codeBlock.selector =
      [codeLocated (afterNewline code.toList)] := by
    rw [Located.find, descendants_answerLocated]
    exact List.filter_cons_of_pos (accepts_codeLocated _)
  have text : (codeLocated (afterNewline code.toList)).text.toList = afterNewline code.toList := by
    rw [Located.text, String.toList_ofList]
    exact textAll_chars _
  obtain ⟨c, member, solid⟩ := solid
  have nonempty : trim code.toList ≠ [] := trim_ne_nil member solid
  have candidate : Answer.candidate? (answerLocated (afterNewline code.toList)) .codeBlock =
      some ⟨.codeBlock, String.ofList (trim code.toList)⟩ := by
    rw [Answer.candidate?, block]
    simp [text, Answer.Kind.normalize, trim_afterNewline, nonempty]
  rw [Answer.extract?, answer]
  simp [Answer.Kind.order, candidate]

namespace Lookup
variable {engine : Engine} {query first : String} {rest : List String} {code : String}
  {fetch : Fetcher}

/-- If the page of hits has some links and the page behind the first one has a block of code in its
answer, then the links are found, the answer is the code without the white space at its ends, and no
other page is asked for. -/
theorem search_yields_code (plain : ∀ text ∈ code :: first :: rest, IsPlain text)
    (solid : ∃ c ∈ code.toList, isBlank c = false)
    (hits : fetch (engine.url query) = .ok (linkPage (first :: rest)))
    (answer : fetch (Answer.url first) = .ok (codePage code)) :
    let lookup : Lookup := ⟨engine, fetch⟩
    let trimmed := String.ofList (trim code.toList)
    (lookup.findLinks query).value = first :: rest ∧
      (lookup.candidate? (first :: rest)).value = some ⟨.codeBlock, trimmed⟩ ∧
      (lookup.search query).value = trimmed ∧
      (∃ before after, code.toList = before ++ trimmed.toList ++ after ∧
        ∀ c ∈ before ++ after, isBlank c = true) ∧
      Effect.requests (lookup.search query).effects = [engine.url query, Answer.url first] ∧
      engine.url query ≠ Answer.url first := by
  intro lookup trimmed
  obtain ⟨plainCode, plainLinks⟩ := List.forall_mem_cons.mp plain
  have links : (lookup.findLinks query).value = first :: rest := by
    have page : (Page.load fetch (engine.url query)).value =
        Page.ofText (engine.url query) (linkPage (first :: rest)) := by
      rw [Page.load_value, hits]
      rfl
    rw [findLinks_value, page]
    exact links_linkPage (List.cons_ne_nil _ _) plainLinks _
  have candidate : (lookup.candidate? (first :: rest)).value = some ⟨.codeBlock, trimmed⟩ := by
    change Answer.extract? (Page.load fetch (Answer.url first)).value = _
    have page : (Page.load fetch (Answer.url first)).value =
        Page.ofText (Answer.url first) (codePage code) := by
      rw [Page.load_value, answer]
      rfl
    rw [page]
    exact extract?_codePage plainCode solid _
  have text : (lookup.search query).value = trimmed := by
    rw [search, Traced.bind_value, links, extract, Traced.bind_value, candidate]
    rfl
  have requests : Effect.requests (lookup.search query).effects =
      [engine.url query, Answer.url first] := by
    rw [requests_search, links]
    rfl
  refine ⟨links, candidate, text, ?_, requests, engine.url_ne_answer query first⟩
  have whole := exists_trim code.toList
  rwa [← String.toList_ofList (l := trim code.toList)] at whole

/-- Links and code with all the characters of markup, and a line feed in front of the code. -/
theorem search_yields_code_marked :
    let engine : Engine := {}
    let first := "/url?q=https://a/?b=1&lt;c=\"<2>\""
    let code := "\n  if (a < b && c)\n\t puts(\"&amp;\");\n"
    let fetch : Fetcher := fun url =>
      if url = engine.url "a & b" then .ok (linkPage [first, "/d"])
      else if url = Answer.url first then .ok (codePage code)
      else .error (.status url 404)
    let lookup : Lookup := ⟨engine, fetch⟩
    (lookup.findLinks "a & b").value = [first, "/d"] ∧
      (lookup.search "a & b").value = "if (a < b && c)\n\t puts(\"&amp;\");" ∧
      Effect.requests (lookup.search "a & b").effects = [engine.url "a & b", Answer.url first] := by
  intro engine first code fetch lookup
  have plain : ∀ text ∈ [code, first, "/d"], IsPlain text := by
    intro text member
    simp only [List.mem_cons, List.not_mem_nil, or_false] at member
    rcases member with rfl | rfl | rfl
    · simp [IsPlain, code]
    · simp [IsPlain, first]
    · simp [IsPlain]
  have solid : ∃ c ∈ code.toList, isBlank c = false := ⟨'i', by simp [code], by decide⟩
  have hits : fetch (engine.url "a & b") = .ok (linkPage [first, "/d"]) := if_pos rfl
  have answer : fetch (Answer.url first) = .ok (codePage code) :=
    (if_neg (engine.url_ne_answer "a & b" first).symm).trans (if_pos rfl)
  have text : String.ofList (trim code.toList) = "if (a < b && c)\n\t puts(\"&amp;\");" := by
    unfold code
    cbv
  obtain ⟨found, -, result, -, requests, -⟩ := search_yields_code plain solid hits answer
  exact ⟨found, result.trans text, requests⟩

end Lookup
end DocAnswers
