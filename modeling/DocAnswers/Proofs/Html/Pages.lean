import DocAnswers.Proofs.Html.Body

/-! Pages of links and pages with one block of code, and what is built from them. -/
namespace DocAnswers.Html
open TagScan DocAnswers.Html.Tree DocAnswers.Html.Tree.Builder

def linkAttributes (target : List Char) : List (List Char × List Char) :=
  [(['c', 'l', 'a', 's', 's'], ['l']), (['h', 'r', 'e', 'f'], target)]

/-- The text of a link that is marked as a hit. -/
def linkText (target : List Char) : List Char :=
  '<' :: tagText ['a'] (linkAttributes target) ++ ['x'] ++ '<' :: '/' :: tagText ['a'] []

def linkTag (target : String) : Tag := ⟨"a", [⟨"class", "l"⟩, ⟨"href", target⟩], false⟩

def linkElement (target : String) : Element := ⟨.html, "a", (linkTag target).attributes⟩

/-- The text of an answer that consists of code. -/
def codeText (code : List Char) : List Char :=
  '<' :: tagText ['d', 'i', 'v'] [(['c', 'l', 'a', 's', 's'], ['a', 'n', 's', 'w', 'e', 'r'])] ++
    '<' :: tagText ['p', 'r', 'e'] [] ++ CharRef.escape code ++
      '<' :: '/' :: tagText ['p', 'r', 'e'] [] ++ '<' :: '/' :: tagText ['d', 'i', 'v'] []

theorem read?_link (plain : '\x00' ∉ target) (rest : List Char) :
    read? (tagText ['a'] (linkAttributes target) ++ rest) =
      some (linkTag (String.ofList target), rest) := by
  rw [read?_tagText (List.all_eq_true.mp rfl)]
  · rfl
  · intro a member
    simp only [linkAttributes, List.mem_cons, List.not_mem_nil, or_false] at member
    rcases member with rfl | rfl
    · exact ⟨by simp, List.all_eq_true.mp rfl, by decide⟩
    · have named : ∀ c ∈ ['h', 'r', 'e', 'f'], isAttributeChar c = true :=
        List.all_eq_true.mp rfl
      exact ⟨by simp, named, plain⟩

theorem read?_bare (name : List Char) (named : ∀ c ∈ name, isNameChar c = true) (rest : List Char) :
    read? (tagText name [] ++ rest) = some (⟨nameOf name, [], false⟩, rest) := by
  rw [read?_tagText named (by simp)]
  rfl

theorem read?_answer (rest : List Char) :
    read? (tagText ['d', 'i', 'v'] [(['c', 'l', 'a', 's', 's'], ['a', 'n', 's', 'w', 'e', 'r'])] ++
      rest) = some (⟨"div", [⟨"class", "answer"⟩], false⟩, rest) := by
  rw [read?_tagText (List.all_eq_true.mp rfl)]
  · rfl
  · intro a member
    obtain rfl := List.mem_singleton.mp member
    exact ⟨by simp, List.all_eq_true.mp rfl, by decide⟩

namespace Tree.Builder
variable {b₀ b : Builder} {a : Arena} {e : Open} {below : List Open}

/-- Whether a state treats the tags of content as another one does, which is inside the body. -/
structure Starts (b₀ b : Builder) : Prop where
  ready : b₀.Ready
  feed : ∀ tag, belongsInside tag.name → b₀.feed (.startTag tag) = b.feed (.startTag tag)

theorem Inside.starts (inside : Inside b a (e :: below) []) (native : e.vocabulary = .html) :
    Starts b b := ⟨inside.ready native, fun _ _ => rfl⟩

theorem starts_opened : Starts {} opened := by
  refine ⟨⟨rfl, rfl⟩, ?_⟩
  intro tag belongs
  have used : opened.step (.startTag tag) = .done (opened.bodyStart tag) := Inside.opened.step rfl _
  rw [feed_first belongs, treat_of_done used, Inside.opened.feed_startTag rfl]
  rfl

end Tree.Builder

section Links
variable {b₀ b : Builder} {a : Arena} {e : Open} {below : List Open}

/-- A link at the end of a node. -/
def withLink (parent : Nat) (a : Arena) (target : List Char) : Arena :=
  (a.grown parent (linkElement (String.ofList target))).append a.nodes.size (.char 'x')

theorem reads_linkText (starts : Starts b₀ b) (inside : Inside b a (e :: below) [])
    (native : e.vocabulary = .html) (plain : '\x00' ∉ target) :
    ∃ b', Reads b₀ (linkText target) b' ∧ Inside b' (withLink e.id a target) (e :: below) [] := by
  let tag := linkTag (String.ofList target)
  have belongs : belongsInside tag.name = true := by
    change belongsInside "a" = true
    decide
  have opening : Reads b₀ _ (b₀.feed (.startTag tag)) :=
    reads_startTag starts.ready (by decide) (read?_link plain)
  have opened := inside.feed_link native tag rfl
  rw [← starts.feed tag belongs] at opened
  have settled : Inside.Settled (⟨a.nodes.size, .html, "a"⟩ :: e :: below)
      [.element a.nodes.size tag] := by
    rintro f ⟨⟩
    exact ⟨_, _, rfl, by simp⟩
  have content := reads_char (opened.ready rfl) 'x' (by decide) (by decide)
  have other : 'x' ≠ '\x00' ∧ 'x' ≠ '\n' := by decide
  obtain ⟨filled, -⟩ := opened.feed_char rfl settled other.1 fun _ => other.2
  have closing := reads_endTag (filled.ready rfl) (by decide) (read?_bare ['a'] (List.all_eq_true.mp rfl))
  exact ⟨_, (opening.append content).append closing, filled.feed_linkEnd rfl⟩

theorem reads_linkTexts {targets : List (List Char)} (inside : Inside b a (e :: below) [])
    (native : e.vocabulary = .html) (plain : ∀ t ∈ targets, '\x00' ∉ t) :
    ∃ b', Reads b (targets.flatMap linkText) b' ∧
      Inside b' (targets.foldl (withLink e.id) a) (e :: below) [] := by
  induction targets generalizing a b with
  | nil => exact ⟨b, .refl b, inside⟩
  | cons t targets ih =>
    obtain ⟨first, later⟩ := List.forall_mem_cons.mp plain
    obtain ⟨b₁, read, linked⟩ := reads_linkText (inside.starts native) inside native first
    obtain ⟨b₂, others, done⟩ := ih linked later
    exact ⟨b₂, read.append others, done⟩

/-- What is built from a page of links. -/
theorem run_linkTexts {targets : List (List Char)} (some : targets ≠ [])
    (plain : ∀ t ∈ targets, '\x00' ∉ t) :
    (run {} (targets.flatMap linkText)).arena = targets.foldl (withLink 3) .framed := by
  cases targets with
  | nil => contradiction
  | cons t targets =>
    obtain ⟨first, later⟩ := List.forall_mem_cons.mp plain
    obtain ⟨b₁, read, linked⟩ := reads_linkText starts_opened Inside.opened rfl first
    obtain ⟨b₂, others, done⟩ := reads_linkTexts linked rfl later
    rw [List.flatMap_cons, (read.append others).run, run_nil done.model, done.feed_eof rfl]
    rfl

end Links

section Code
variable {b : Builder} {a : Arena} {e : Open} {below : List Open}

/-- Characters at the end of a node. -/
def withText (parent : Nat) (a : Arena) (cs : List Char) : Arena :=
  cs.foldl (fun a c => a.append parent (.char c)) a

/-- Preformatted text without the line feed that may stand before it. -/
def afterNewline : List Char → List Char
  | '\n' :: cs => cs
  | cs => cs

theorem settled_nil (stack : List Open) : Inside.Settled stack [] := by
  intro f first
  contradiction

theorem reads_text (inside : Inside b a (e :: below) []) (native : e.vocabulary = .html)
    (plain : '\x00' ∉ cs) (unskipped : b.skipNewline = false) :
    ∃ b', Reads b (CharRef.escape cs) b' ∧ Inside b' (withText e.id a cs) (e :: below) [] := by
  induction cs generalizing a b with
  | nil => exact ⟨b, .refl b, inside⟩
  | cons c cs ih =>
    have kept : c ≠ '\x00' := fun is => plain (is ▸ List.mem_cons_self)
    obtain ⟨filled, unskipped'⟩ := inside.feed_char native (settled_nil _) kept
      fun skips => absurd skips (by simp [unskipped])
    obtain ⟨b₁, read, done⟩ := ih filled (fun later => plain (.tail _ later)) unskipped'
    exact ⟨b₁, (reads_escapeChar (inside.ready native) c).append read, done⟩

/-- Text behind the start of a preformatted element. -/
theorem reads_preformatted (inside : Inside b a (e :: below) []) (native : e.vocabulary = .html)
    (plain : '\x00' ∉ cs) :
    ∃ b', Reads b (CharRef.escape cs) b' ∧
      Inside b' (withText e.id a (if b.skipNewline then afterNewline cs else cs)) (e :: below) [] := by
  cases skips : b.skipNewline with
  | false => exact reads_text inside native plain skips
  | true =>
    cases cs with
    | nil => exact ⟨b, .refl b, inside⟩
    | cons c cs =>
      have later : '\x00' ∉ cs := fun later => plain (.tail _ later)
      have front := reads_escapeChar (inside.ready native) c
      by_cases feed : c = '\n'
      · subst feed
        obtain ⟨dropped, unskipped⟩ := inside.feed_skipped skips
        obtain ⟨b₁, read, done⟩ := reads_text dropped native later unskipped
        exact ⟨b₁, front.append read, done⟩
      · have kept : c ≠ '\x00' := fun is => plain (is ▸ List.mem_cons_self)
        obtain ⟨filled, unskipped⟩ := inside.feed_char native (settled_nil _) kept fun _ => feed
        obtain ⟨b₁, read, done⟩ := reads_text filled native later unskipped
        refine ⟨b₁, front.append read, ?_⟩
        have whole : afterNewline (c :: cs) = c :: cs := by
          rw [afterNewline]
          rintro cs' ⟨⟩
          contradiction
        rw [if_pos rfl, whole]
        exact done

/-- The document of an answer that consists of code. -/
def coded (code : List Char) : Arena :=
  withText 5 ((Arena.framed.grown 3 ⟨.html, "div", [⟨"class", "answer"⟩]⟩).grown 4 ⟨.html, "pre", []⟩)
    (afterNewline code)

/-- What is built from a page with an answer that consists of code. -/
theorem run_codeText (plain : '\x00' ∉ code) : (run {} (codeText code)).arena = coded code := by
  let outer : Tag := ⟨"div", [⟨"class", "answer"⟩], false⟩
  have belongs : belongsInside outer.name = true := by
    change belongsInside "div" = true
    decide
  have openOuter := reads_startTag starts_opened.ready (by decide) read?_answer
  have answer := Inside.opened.feed_div rfl outer rfl (by decide)
  rw [← starts_opened.feed outer belongs] at answer
  have openInner := reads_startTag (answer.ready rfl) (by decide) (read?_bare ['p', 'r', 'e'] (List.all_eq_true.mp rfl))
  obtain ⟨block, skips⟩ := answer.feed_pre rfl ⟨"pre", [], false⟩ rfl (by decide)
  obtain ⟨b₁, content, filled⟩ := reads_preformatted block rfl plain
  rw [if_pos skips] at filled
  have closeInner : Reads b₁ _ (b₁.feed (.endTag "pre")) :=
    reads_endTag (filled.ready rfl) (by decide) (read?_bare ['p', 'r', 'e'] (List.all_eq_true.mp rfl))
  have closed := filled.feed_blockEnd (.inr rfl)
  have closeOuter : Reads _ _ ((b₁.feed (.endTag "pre")).feed (.endTag "div")) :=
    reads_endTag (closed.ready rfl) (by decide) (read?_bare ['d', 'i', 'v'] (List.all_eq_true.mp rfl))
  have done := closed.feed_blockEnd (.inl rfl)
  have read := (((openOuter.append openInner).append content).append closeInner).append closeOuter
  have built : run {} (codeText code) = _ := read.run
  rw [built, run_nil done.model, done.feed_eof rfl]
  rfl

end Code
end DocAnswers.Html
