import DocAnswers.Proofs.Html.Additions
import DocAnswers.Proofs.Html.Around
import Mathlib

/-! Which links a page of hits has. There are two kinds of elements that may be links to hits, and those
of the second kind count only where none of the first kind leads anywhere. Something of the second kind
is inside something that is marked as a hit, and a template between them keeps it from being seen. -/
namespace DocAnswers.Search
open Html Html.Document

/-- What an element leads to. -/
def target? (l : Located) : Option String := l.element.attribute? "href"

/-- Whether an element is marked as a link to a hit. -/
def Primary (l : Located) : Prop := "l" ∈ l.element.classes

/-- Whether an element is a link inside a hit, without a template between them. -/
def Secondary (d : Document) (l : Located) : Prop :=
  l.element.name = "a" ∧ ∃ m, Surrounds d.whole m l ∧ "r" ∈ m.element.classes

/-- Whether a list tells what the elements of some kind lead to, each of them that leads anywhere once,
in the order in which they are asked for. -/
def Lists (d : Document) (kind : Located → Prop) (links : List String) : Prop :=
  ∃ chosen : List Located, chosen.Sublist d.elements ∧
    (∀ l, l ∈ chosen ↔ l ∈ d.elements ∧ kind l ∧ target? l ≠ none) ∧
    chosen.map target? = links.map some

section Kind
variable {p : Page} {s : Selector} {kind : Located → Prop}
  (accepts : ∀ l ∈ p.document.elements, s.accepts l = true ↔ kind l)
include accepts

theorem targets_eq_nil_iff :
    targets p s = [] ↔ ∀ l ∈ p.document.elements, kind l → target? l = none := by
  rw [targets, List.filterMap_eq_nil_iff]
  constructor
  · intro none l member isKind
    exact none l (List.mem_filter.mpr ⟨member, (accepts l member).mpr isKind⟩)
  · intro none l found
    obtain ⟨member, accepted⟩ := List.mem_filter.mp found
    exact none l member ((accepts l member).mp accepted)

theorem targets_ne_nil_iff :
    targets p s ≠ [] ↔ ∃ l ∈ p.document.elements, kind l ∧ target? l ≠ none := by
  rw [ne_eq, targets_eq_nil_iff accepts]
  push Not
  rfl

theorem lists_targets : Lists p.document kind (targets p s) := by
  refine ⟨(p.select s).filter fun l => (target? l).isSome, ?_, ?_, ?_⟩
  · exact List.filter_sublist.trans List.filter_sublist
  · intro l
    rw [List.mem_filter, Page.select, List.mem_filter, and_assoc, Option.isSome_iff_ne_none]
    exact and_congr_right fun member => and_congr_left' (accepts l member)
  · rw [targets, List.map_filterMap_some_eq_filter_map_isSome, List.filter_map]
    rfl

theorem lists_iff (order : InCreationOrder p.document.elements) (links : List String) :
    Lists p.document kind links ↔ links = targets p s := by
  constructor
  · rintro ⟨chosen, part, exactly, tells⟩
    obtain ⟨chosen', part', exactly', tells'⟩ := lists_targets accepts
    obtain rfl : chosen = chosen' :=
      (order.sublist part).eq_of_mem_iff (order.sublist part') fun l =>
        (exactly l).trans (exactly' l).symm
    exact List.map_injective_iff.mpr (Option.some_injective _) (tells.symm.trans tells')
  · rintro rfl
    exact lists_targets accepts

end Kind

theorem fits_within (c : Compound) (es : List Element) :
    Chain.fits [(.within, c)] es = es.any c.accepts := by
  induction es with
  | nil => rfl
  | cons e es ih => rw [Chain.fits, Chain.fits, ih, Bool.and_true, List.any_cons]

theorem accepts_primary (l : Located) : primary.accepts l = true ↔ Primary l := by
  rw [primary, Selector.hasClass, Selector.accepts_single, Test.accepts, List.contains_iff_mem,
    Primary]

theorem accepts_secondary {d : Document} {l : Located} (distinct : (d.whole.map (·.number)).Nodup)
    (member : l ∈ d.elements) : secondary.accepts l = true ↔ Secondary d l := by
  have name : (Test.type "a").accepts l.element = (l.element.name == "a") :=
    Test.accepts_type (by decide) l.element
  have mark (e : Element) : (Test.hasClass "r").accepts e = e.classes.contains "r" := rfl
  have tests : secondary.accepts l = true ↔
      l.element.name = "a" ∧ ∃ e ∈ l.around, "r" ∈ e.classes := by
    simp [secondary, Selector.accepts, Chain.accepts, fits_within, Compound.accepts, name, mark]
  have around (e : Element) : e ∈ l.around ↔ ∃ m, Surrounds d.whole m l ∧ m.element = e :=
    mem_around_iff distinct (mem_whole_of_mem_elements member)
  rw [tests]
  constructor
  · rintro ⟨isLink, e, stands, marked⟩
    obtain ⟨m, surrounds, rfl⟩ := (around e).mp stands
    exact ⟨isLink, m, surrounds, marked⟩
  · rintro ⟨isLink, m, surrounds, marked⟩
    exact ⟨isLink, m.element, (around _).mpr ⟨m, surrounds, rfl⟩, marked⟩

theorem links_eq (p : Page) :
    links p = if targets p primary = [] then targets p secondary else targets p primary := by
  rw [links]
  simp only [List.isEmpty_iff]

/-- Whether an element leads anywhere. -/
def leads (e : Element) : Bool := (e.attribute? "href").isSome

theorem targets_eq_of_outlines (p : Page) (s : Selector) (later : Nat → Nat) :
    targets p s =
      ((outlines leads later p.document.elements).filter s.accepts).filterMap target? := by
  rw [outlines, List.filter_map, List.filterMap_map, List.filterMap_filter, List.filterMap_filter,
    targets, Page.select, List.filterMap_filter]
  congr 1
  funext l
  change (if s.accepts l then target? l else none) =
    if leads l.element then (if s.accepts l then target? l else none) else none
  by_cases somewhere : leads l.element = true
  · rw [if_pos somewhere]
  · have nowhere : target? l = none := Option.not_isSome_iff_eq_none.mp somewhere
    rw [nowhere, ite_self, ite_self]

/-- Elements that lead nowhere and hold nothing can be added to a page without an effect on its links. -/
theorem links_of_adds {p q : Page} {later : Nat → Nat}
    (adds : p.document.Adds (fun e => e.attribute? "href" = none) later q.document) :
    links q = links p := by
  have same : outlines leads id q.document.elements = outlines leads later p.document.elements :=
    adds.outlines_eq fun e nowhere => by rw [leads, nowhere, Option.isSome_none]
  have kept (s : Selector) : targets q s = targets p s := by
    rw [targets_eq_of_outlines q s id, targets_eq_of_outlines p s later, same]
  rw [links_eq, links_eq, kept, kept]

/-- Where something marked as a link to a hit leads anywhere, the links of a page are what all of that
leads to, and otherwise what the links inside hits lead to. Of what they lead to nothing is left out
and nothing told twice. Elements that lead nowhere and hold nothing do not count. -/
theorem links_by_tiers (url text : String) :
    let p := Page.ofText url text
    let d := p.document
    InCreationOrder d.elements ∧
    ((∃ l ∈ d.elements, Primary l ∧ target? l ≠ none) →
      ∀ ls, Lists d Primary ls ↔ ls = links p) ∧
    ((∀ l ∈ d.elements, Primary l → target? l = none) →
      ∀ ls, Lists d (Secondary d) ls ↔ ls = links p) ∧
    ∀ later q, d.Adds (fun e => e.attribute? "href" = none) later q.document → links q = links p := by
  intro p d
  have order : InCreationOrder d.elements := inCreationOrder_elements (nodup_held_ofText text)
  have first : ∀ l ∈ d.elements, primary.accepts l = true ↔ Primary l := fun l _ =>
    accepts_primary l
  have second : ∀ l ∈ d.elements, secondary.accepts l = true ↔ Secondary d l := fun l =>
    accepts_secondary (nodup_whole_ofText text)
  refine ⟨order, ?_, ?_, fun later q => links_of_adds⟩
  · intro somewhere ls
    rw [links_eq, if_neg ((targets_ne_nil_iff first).mpr somewhere)]
    exact lists_iff first order ls
  · intro nowhere ls
    rw [links_eq, if_pos ((targets_eq_nil_iff first).mpr nowhere)]
    exact lists_iff second order ls

/-- A link that is marked as one, and one inside a hit to which something empty is added. -/
theorem links_by_tiers_added :
    let p := Page.ofText "x" "<a class=l href=/b></a>"
    let q := Page.ofText "x" "<h3 class=r><a href=/a></a></h3>"
    let later (n : Nat) : Nat := if n < 5 then n else n + 1
    let heading : Element := ⟨.html, "h3", [⟨"class", "r"⟩]⟩
    let empty : Content := .element 5 ⟨.html, "b", [⟨"class", "l r"⟩]⟩ []
    let link : Content := .element 6 ⟨.html, "a", [⟨"href", "/a"⟩]⟩ []
    let added : Page := ⟨"x", { content := [.element 1 ⟨.html, "html", []⟩
      [.element 2 ⟨.html, "head", []⟩ [], .element 3 ⟨.html, "body", []⟩
        [.element 4 heading [empty, link]]]] }⟩
    ((∃ l ∈ p.document.elements, Primary l ∧ target? l ≠ none) ∧
      Lists p.document Primary ["/b"]) ∧
    ((∀ l ∈ q.document.elements, Primary l → target? l = none) ∧
      Lists q.document (Secondary q.document) ["/a"]) ∧
    q.document.Adds (fun e => e.attribute? "href" = none) later added.document ∧
      links added = ["/a"] := by
  intro p q later heading empty link added
  obtain ⟨-, first, -, -⟩ := links_by_tiers "x" "<a class=l href=/b></a>"
  obtain ⟨-, -, second, frame⟩ := links_by_tiers "x" "<h3 class=r><a href=/a></a></h3>"
  have told : targets p primary = ["/b"] ∧ links p = ["/b"] := by
    unfold p
    cbv
  have read : q = ⟨"x", { content := [.element 1 ⟨.html, "html", []⟩
      [.element 2 ⟨.html, "head", []⟩ [], .element 3 ⟨.html, "body", []⟩
        [.element 4 heading [.element 5 ⟨.html, "a", [⟨"href", "/a"⟩]⟩ []]]]] }⟩ := by
    unfold q heading
    cbv
  have told' : targets q primary = [] ∧ links q = ["/a"] := by
    rw [read]
    unfold heading
    cbv
  have adds : q.document.Adds (fun e => e.attribute? "href" = none) later added.document := by
    refine ⟨?_, ?_, ?_⟩
    · intro m n before
      simp only [later]
      split <;> split <;> omega
    · have inHeading : Content.Adds (fun e => e.attribute? "href" = none) later
          [.element 5 ⟨.html, "a", [⟨"href", "/a"⟩]⟩ []] [empty, link] :=
        .added 5 (by decide) (.element 5 _ .nil .nil)
      rw [read]
      exact .element 1 _ (.element 2 _ .nil (.element 3 _ (.element 4 _ inHeading .nil) .nil)) .nil
    · rw [read]
      exact .nil
  have somewhere :=
    (targets_ne_nil_iff fun l _ => accepts_primary l).mp (told.1 ▸ List.cons_ne_nil _ _)
  have nowhere := (targets_eq_nil_iff fun l _ => accepts_primary l).mp told'.1
  exact ⟨⟨somewhere, (first somewhere _).mpr told.2.symm⟩,
    ⟨nowhere, (second nowhere _).mpr told'.2.symm⟩, adds, (frame later added adds).trans told'.2⟩

/-- A link is in a template inside a hit. -/
theorem links_not_through_template :
    let p := Page.ofText "x" "<div class=r><template><a href=/x>x</a></template></div>"
    let d := p.document
    let inside (l : Located) : Prop :=
      l.element.name = "a" ∧ ∃ m ∈ d.whole, m.encloses l = true ∧ "r" ∈ m.element.classes
    (∀ l ∈ d.elements, Primary l → target? l = none) ∧
    (∃ l ∈ d.elements, inside l ∧ target? l = some "/x") ∧ links p = [] ∧
    ¬Lists d inside (links p) := by
  intro p d inside
  have read : p = ⟨"x", { content := [.element 1 ⟨.html, "html", []⟩
      [.element 2 ⟨.html, "head", []⟩ [], .element 3 ⟨.html, "body", []⟩
        [.element 4 ⟨.html, "div", [⟨"class", "r"⟩]⟩ [.element 5 ⟨.html, "template", []⟩
          [.element 6 ⟨.html, "a", [⟨"href", "/x"⟩]⟩ [.char 'x']]]]]] }⟩ := by
    unfold p
    cbv
  have told : targets p primary = [] ∧ links p = [] := by
    rw [read]
    cbv
  have checked : d.elements.any (fun l => l.element.name == "a" && target? l == some "/x" &&
      d.whole.any fun m => m.encloses l && m.element.classes.contains "r") = true := by
    unfold d
    rw [read]
    cbv
  have found : ∃ l ∈ d.elements, inside l ∧ target? l = some "/x" := by
    simp only [List.any_eq_true, Bool.and_eq_true, beq_iff_eq, List.contains_iff_mem] at checked
    obtain ⟨l, member, ⟨name, leads⟩, m, among, encloses, marked⟩ := checked
    exact ⟨l, member, ⟨name, m, among, encloses, marked⟩, leads⟩
  refine ⟨(targets_eq_nil_iff fun l _ => accepts_primary l).mp told.1, found, told.2, ?_⟩
  rintro ⟨chosen, -, exactly, tells⟩
  rw [told.2, List.map_nil, List.map_eq_nil_iff] at tells
  subst tells
  obtain ⟨l, member, isInside, leads⟩ := found
  have among := (exactly l).mpr ⟨member, isInside, by simp [leads]⟩
  contradiction

end DocAnswers.Search
