import DocAnswers.Proofs.Html.Refill
import DocAnswers.Proofs.Lookup.CleanText
import Mathlib

/-! Which text of a page is the answer. It stands in the first element of the class that is made, and
there in the first block of code, the first inline code or the first prose, the first of the three that
is not blank. Nothing else on the page counts. -/
namespace DocAnswers
open Html Text

namespace Html.Document

/-- Where every other element that passes a test was made later, the first is found. -/
theorem head?_filter_elements {d : Document} {e : Located} {test : Located → Bool}
    (member : e ∈ d.held) (passes : test e = true)
    (later : ∀ l ∈ d.held, test l = true → l = e ∨ e.number < l.number) :
    (d.elements.filter test).head? = some e := by
  have sorted := d.sorted_elements.sublist (List.filter_sublist (p := test))
  have among : e ∈ d.elements.filter test :=
    List.mem_filter.mpr ⟨d.elements_perm.mem_iff.mpr member, passes⟩
  cases found : d.elements.filter test with
  | nil =>
    rw [found] at among
    contradiction
  | cons first rest =>
    have isFirst : first ∈ d.elements.filter test := found ▸ List.mem_cons_self
    obtain ⟨holds, accepted⟩ := List.mem_filter.mp isFirst
    rcases later first (d.elements_perm.mem_iff.mp holds) accepted with rfl | after
    · rfl
    · rw [found] at among sorted
      rcases List.mem_cons.mp among with rfl | behind
      · rfl
      · have := List.rel_of_pairwise_cons sorted behind
        omega

end Html.Document

namespace Page

/-- A page where the elements with certain numbers hold something new. -/
def refill (new : Nat → Option (List Content)) (p : Page) : Page where
  url := p.url
  document := p.document.refill new

end Page

namespace Answer

/-- Whether an element is an answer. -/
def marks (e : Element) : Bool := e.classes.contains "answer"

/-- Which elements are of some kind. -/
def Kind.marks : Kind → Element → Bool
  | codeBlock, e => e.name == "pre"
  | inlineCode, e => e.name == "code"
  | prose, e => e.classes.contains "post-text"

/-- What an answer has of some kind: its first element of the kind, unless that is blank. -/
def Offers (answer : Located) (kind : Kind) (text : String) : Prop :=
  ∃ node, answer.first? kind.marks = some node ∧ (∃ c ∈ node.text.toList, isBlank c = false) ∧
    text = String.ofList (kind.normalize node.text.toList)

/-- The text of the first element of some kind in the first answer of a page. -/
def lead? (p : Page) (kind : Kind) : Option String :=
  ((p.select (.hasClass "answer")).head?.bind (·.first? kind.marks)).map (·.text)

/-- What a text of some kind is worth as an answer. -/
def Kind.worth? (kind : Kind) (text : String) : Option Candidate :=
  let text := kind.normalize text.toList
  if text.isEmpty then none else some ⟨kind, String.ofList text⟩

theorem Kind.mem_order (kind : Kind) : kind ∈ order := by
  cases kind <;> decide

theorem accepts_answer (l : Located) : (Selector.hasClass "answer").accepts l = marks l.element :=
  Selector.accepts_single _ l

theorem accepts_type {name : String} (small : toLower name.toList = name.toList) (l : Located) :
    (Selector.type name).accepts l = (l.element.name == name) :=
  (Selector.accepts_single _ l).trans (Test.accepts_type small l.element)

theorem accepts_selector (kind : Kind) (l : Located) :
    kind.selector.accepts l = kind.marks l.element := by
  cases kind with
  | codeBlock => exact accepts_type (by decide) l
  | inlineCode => exact accepts_type (by decide) l
  | prose => exact Selector.accepts_single _ l

theorem head?_find (answer : Located) (kind : Kind) :
    (answer.find kind.selector).head? = answer.first? kind.marks := by
  rw [Located.find, List.head?_filter, Located.first?]
  congr 1
  funext l
  exact accepts_selector kind l

theorem candidate?_eq (answer : Located) (kind : Kind) :
    candidate? answer kind = ((answer.first? kind.marks).map (·.text)).bind kind.worth? := by
  rw [candidate?, head?_find]
  cases answer.first? kind.marks <;> rfl

theorem offers_iff (answer : Located) (kind : Kind) (text : String) :
    Offers answer kind text ↔ candidate? answer kind = some ⟨kind, text⟩ := by
  simp only [Offers, candidate?_eq_some_iff, head?_find, ne_eq, Kind.normalize_eq_nil_iff,
    Candidate.mk.injEq, true_and, not_forall, Bool.not_eq_true, exists_prop]

theorem candidate?_eq_none_iff (answer : Located) (kind : Kind) :
    candidate? answer kind = none ↔ ∀ text, ¬Offers answer kind text := by
  simp only [offers_iff]
  constructor
  · intro none text offered
    rw [none] at offered
    contradiction
  · intro offersNone
    by_contra some
    obtain ⟨c, offered⟩ := Option.ne_none_iff_exists'.mp some
    obtain ⟨node, -, -, rfl⟩ := (candidate?_eq_some_iff answer kind c).mp offered
    exact offersNone _ offered

variable {p q : Page} {answer : Located}

theorem extract?_eq_bind (p : Page) : extract? p =
    (p.select (.hasClass "answer")).head?.bind fun answer =>
      Kind.order.findSome? (candidate? answer) := by
  rw [List.head?_eq_getElem?]
  rfl

theorem extract?_eq (first : (p.select (.hasClass "answer")).head? = some answer) :
    extract? p = Kind.order.findSome? (candidate? answer) := by
  rw [extract?_eq_bind, first, Option.bind_some]

theorem extract?_eq_some_iff (first : (p.select (.hasClass "answer")).head? = some answer)
    (kind : Kind) (text : String) :
    extract? p = some ⟨kind, text⟩ ↔ ∃ better worse,
      [Kind.codeBlock, .inlineCode, .prose] = better ++ kind :: worse ∧ Offers answer kind text ∧
        ∀ k ∈ better, ∀ t, ¬Offers answer k t := by
  rw [extract?_eq first, List.findSome?_eq_some_iff]
  constructor
  · rintro ⟨better, k, worse, order, offered, none⟩
    obtain ⟨node, -, -, is⟩ := (candidate?_eq_some_iff answer k _).mp offered
    obtain rfl : kind = k := congrArg Candidate.kind is
    exact ⟨better, worse, order, (offers_iff answer kind text).mpr offered,
      fun k member => (candidate?_eq_none_iff answer k).mp (none k member)⟩
  · rintro ⟨better, worse, order, offered, none⟩
    exact ⟨better, kind, worse, order, (offers_iff answer kind text).mp offered,
      fun k member => (candidate?_eq_none_iff answer k).mpr (none k member)⟩

theorem extract?_eq_none_iff (first : (p.select (.hasClass "answer")).head? = some answer) :
    extract? p = none ↔ ∀ kind text, ¬Offers answer kind text := by
  rw [extract?_eq first, List.findSome?_eq_none_iff]
  simp only [candidate?_eq_none_iff]
  constructor
  · intro none kind
    exact none kind kind.mem_order
  · intro none kind _
    exact none kind

theorem extract?_of_no_answer (unmarked : ∀ l ∈ p.document.elements, "answer" ∉ l.element.classes) :
    extract? p = none := by
  have nothing : p.select (.hasClass "answer") = [] := by
    apply List.filter_eq_nil_iff.mpr
    intro l member
    rw [accepts_answer, marks, List.contains_iff_mem]
    exact unmarked l member
  rw [extract?_eq_bind, nothing, List.head?_nil, Option.bind_none]

theorem extract?_eq_findSome?_lead? (p : Page) :
    extract? p = Kind.order.findSome? fun kind => (lead? p kind).bind kind.worth? := by
  rw [extract?_eq_bind]
  simp only [lead?]
  cases (p.select (.hasClass "answer")).head? with
  | none => rfl
  | some answer =>
    rw [Option.bind_some]
    congr 1
    funext kind
    exact candidate?_eq answer kind

/-- The answer of a page depends on the texts of three elements only. -/
theorem extract?_congr (same : ∀ kind, lead? q kind = lead? p kind) : extract? q = extract? p := by
  rw [extract?_eq_findSome?_lead?, extract?_eq_findSome?_lead?]
  simp only [same]

/-- Whether other elements of a page can be refilled without an effect on its answer. None of them is
the first answer or around it, no new answer is made before it, and what it has of each kind is kept. -/
@[mk_iff]
structure Spares (new : Nat → Option (List Content)) (p : Page) (answer : Located) : Prop where
  kept : new answer.number = none
  apart : ∀ l ∈ p.document.whole, new l.number ≠ none → l.encloses answer = false
  later : ∀ l ∈ p.document.whole, ∀ content ∈ new l.number,
    ∀ m ∈ Content.elementsAll l.inner content, marks m.element = true → answer.number < m.number
  keeps : ∀ kind ∈ Kind.order, answer.Keeps new kind.marks

instance (new : Nat → Option (List Content)) (p : Page) (answer : Located) :
    Decidable (Spares new p answer) :=
  decidable_of_iff' _ (spares_iff new p answer)

section Distinct
variable {new : Nat → Option (List Content)} (distinct : (p.document.held.map (·.number)).Nodup)
include distinct

theorem lt_of_marks (first : (p.select (.hasClass "answer")).head? = some answer) {l : Located}
    (member : l ∈ p.document.held) (marked : marks l.element = true) :
    l = answer ∨ answer.number < l.number := by
  have order := Page.inCreationOrder_select distinct (.hasClass "answer")
  have among : l ∈ p.select (.hasClass "answer") :=
    List.mem_filter.mpr ⟨p.document.elements_perm.mem_iff.mpr member, by rwa [accepts_answer]⟩
  cases found : p.select (.hasClass "answer") with
  | nil =>
    rw [found] at first
    contradiction
  | cons head rest =>
    rw [found] at first among order
    obtain rfl := Option.some.inj first
    rcases List.mem_cons.mp among with rfl | behind
    · exact .inl rfl
    · exact .inr (List.rel_of_pairwise_cons order (List.mem_map_of_mem behind))

theorem head?_select_refill (first : (p.select (.hasClass "answer")).head? = some answer)
    (spares : Spares new p answer) :
    ((p.refill new).select (.hasClass "answer")).head? = some (answer.refill new) := by
  have among := List.mem_filter.mp (List.mem_of_head? first)
  have member := p.document.elements_perm.mem_iff.mp among.1
  refine Document.head?_filter_elements (Document.refill_mem_held member spares.apart) among.2 ?_
  -- Another answer was there before and was made later, or it is new and made later.
  intro m member marked
  rw [accepts_answer] at marked
  rcases Document.mem_held_refill member with ⟨l, held, rfl⟩ | ⟨l, part, content, replaced, inside⟩
  · rcases lt_of_marks distinct first held marked with rfl | later
    · exact .inl rfl
    · exact .inr later
  · exact .inr (spares.later l part content replaced m inside marked)

theorem lead?_refill (first : (p.select (.hasClass "answer")).head? = some answer)
    (spares : Spares new p answer) (kind : Kind) : lead? (p.refill new) kind = lead? p kind := by
  have keeps := spares.keeps kind kind.mem_order
  rw [lead?, lead?, head?_select_refill distinct first spares, first, Option.bind_some,
    Option.bind_some, keeps.first?_refill spares.kept]
  cases found : answer.first? kind.marks with
  | none => rfl
  | some node => exact congrArg some (keeps.text node found)

end Distinct

/-- A page without an element of the class has no answer. Otherwise the answer is what the first such
element offers of the first kind of which it offers anything. An element offers something of a kind
just if the first element of the kind inside it is not blank, and what is inside it is what its node
is around, which leaves itself out. Pages where the same three texts are found have the same answer,
and so has a page where other elements are refilled. -/
theorem extract?_by_kind (url text : String) :
    let p := Page.ofText url text
    let arena := (Tree.Builder.run {} (Token.prepare text.toList)).arena
    ((∀ l ∈ p.document.elements, "answer" ∉ l.element.classes) → extract? p = none) ∧
    (∀ answer, (p.select (.hasClass "answer")).head? = some answer →
      (∀ kind text, extract? p = some ⟨kind, text⟩ ↔ ∃ better worse,
        [Kind.codeBlock, .inlineCode, .prose] = better ++ kind :: worse ∧ Offers answer kind text ∧
          ∀ k ∈ better, ∀ t, ¬Offers answer k t) ∧
      (extract? p = none ↔ ∀ kind text, ¬Offers answer kind text) ∧
      (∀ n, n ∈ answer.descendants.map (·.number) ↔
        Relation.TransGen (fun q c => .node c ∈ arena.contentOf q) answer.number n) ∧
      answer.encloses answer = false ∧
      ∀ new, Spares new p answer → extract? (p.refill new) = extract? p) ∧
    ∀ q, (∀ kind, lead? q kind = lead? p kind) → extract? q = extract? p := by
  intro p arena
  have distinct : (p.document.held.map (·.number)).Nodup := Document.nodup_held_ofText text
  refine ⟨extract?_of_no_answer, ?_, fun q => extract?_congr⟩
  intro answer first
  have member : answer ∈ p.document.held :=
    p.document.elements_perm.mem_iff.mp (List.mem_filter.mp (List.mem_of_head? first)).1
  refine ⟨extract?_eq_some_iff first, extract?_eq_none_iff first, ?_, ?_, ?_⟩
  · exact Document.mem_descendants_iff (Tree.Builder.Sound.empty.run _).linked member
  · have apart := distinct.sublist ((Document.self_descendants_sublist member).map _)
    rw [List.map_cons, List.nodup_cons] at apart
    exact Bool.eq_false_iff.mpr fun inside => apart.1 (List.contains_iff_mem.mp inside)
  · intro new spares
    exact extract?_congr (lead?_refill distinct first spares)

/-- The second block of code in the first answer and all of the second answer are replaced. -/
theorem extract?_by_kind_refilled :
    let p := Page.ofText "x"
      "<div class=answer><pre>a</pre><pre>b</pre></div><div class=answer><pre>c</pre></div>"
    let new : Nat → Option (List Content) := fun number =>
      if number = 6 then some [.element 20 ⟨.html, "pre", []⟩ [.char 'x']]
      else if number = 7 then some [.element 21 ⟨.html, "div", [⟨"class", "answer"⟩]⟩ []]
      else none
    (∃ answer, (p.select (.hasClass "answer")).head? = some answer ∧ Spares new p answer ∧
      (answer.refill new).text = "ax") ∧
    extract? p = some ⟨.codeBlock, "a"⟩ ∧ extract? (p.refill new) = some ⟨.codeBlock, "a"⟩ ∧
    extract? (Page.ofText "x" "<pre>a</pre>") = none := by
  intro p new
  have checked : (p.select (.hasClass "answer")).head?.any (fun answer =>
      decide (Spares new p answer ∧ (answer.refill new).text = "ax" ∧
        candidate? answer .codeBlock = some ⟨.codeBlock, "a"⟩)) = true := by
    unfold p new
    cbv
  obtain ⟨answer, first, holds⟩ := (Option.any_eq_true _ _).mp checked
  obtain ⟨spares, changed, offered⟩ := of_decide_eq_true holds
  obtain ⟨rule, -, -, -, refilled⟩ := (extract?_by_kind _ _).2.1 answer first
  have best : extract? p = some ⟨.codeBlock, "a"⟩ :=
    (rule _ _).mpr ⟨[], _, rfl, (offers_iff _ _ _).mpr offered, by simp⟩
  refine ⟨⟨answer, first, spares, changed⟩, best, (refilled new spares).trans best, ?_⟩
  refine (extract?_by_kind _ _).1 ?_
  have unmarked : (Page.ofText "x" "<pre>a</pre>").document.elements.all (fun l =>
      !l.element.classes.contains "answer") = true := by
    cbv
  simpa using unmarked

end Answer
end DocAnswers
