import DocAnswers.Proofs.Html.Markup

/-! Tree construction on simple markup in a body: what the document has in it after each token. -/
namespace DocAnswers.Html.Tree

namespace Arena

/-- A document with an empty head and an empty body. -/
def framed : Arena :=
  ⟨#[{ element := none, content := [.node 1] },
    { element := some ⟨.html, "html", []⟩, parent := some 0, content := [.node 3, .node 2] },
    { element := some ⟨.html, "head", []⟩, parent := some 1 },
    { element := some ⟨.html, "body", []⟩, parent := some 1 }]⟩

/-- A new element at the end of a node. -/
def grown (a : Arena) (parent : Nat) (e : Element) : Arena :=
  (a.create e).1.append parent (.node a.nodes.size)

end Arena

namespace Builder
open Step
variable {a : Arena} {e : Open} {below stack : List Open} {formatting : List Formatting}
  {b b' : Builder} {t : Token} {tag : Tag} {number : Nat}

/-- A state inside the body, without anything that markup before it has left to do. -/
structure Inside (b : Builder) (arena : Arena) (stack : List Open) (formatting : List Formatting) :
    Prop where
  arena : b.arena = arena
  stack : b.stack = stack
  formatting : b.formatting = formatting
  mode : b.mode = .inBody
  model : b.contentModel = .markup
  placed : b.fostering = false
  templates : b.templateModes = []

/-- The state behind the start of the body that a first tag implies. -/
def opened : Builder :=
  { arena := .framed, mode := .inBody, stack := [⟨3, .html, "body"⟩, ⟨1, .html, "html"⟩],
    head := some ⟨2, .html, "head"⟩, oldRules := true }

/-- Tags that do not belong into the head or around the body. -/
def belongsInside (name : String) : Bool :=
  !(["html", "head", "body", "frameset", "noscript"].contains name || headNames.contains name)

theorem feed_first (inside : belongsInside tag.name) :
    feed {} (.startTag tag) = treat 19 opened (.startTag tag) := by
  obtain ⟨name, attributes, closing⟩ := tag
  simp only [belongsInside, headNames, List.contains_cons, List.contains_nil, Bool.not_eq_true',
    Bool.or_eq_false_iff, beq_eq_false_iff_ne, Bool.or_false] at inside
  simp [feed, patience, treat, step, isForeign, rules, initial, isInput, beforeHtml, beforeHead,
    insertNamed, insert, openHead, insertTag, inHead, headNames, afterHead, pop, isForeignIn, place,
    placeFor, Place.put, Arena.empty, Arena.create, Arena.append, Arena.take, Arena.detach,
    Arena.parent?, Arena.modify, Arena.document, opened, Arena.framed, inside]

theorem treat_of_done (finished : b.step t = done b') (count : Nat) : treat (count + 1) b t = b' := by
  rw [treat, finished]

/-- A token that is used up at once. -/
theorem feed_of_done (kept : b.skipNewline = true → t ≠ .char '\n')
    (finished : { b with skipNewline := false }.step t = done b') : b.feed t = b' := by
  have used : (b.skipNewline && t == .char '\n') = false := by
    rw [Bool.and_eq_false_imp]
    intro skips
    exact beq_false_of_ne (kept skips)
  rw [feed]
  simp only [used]
  exact treat_of_done finished _

/-! The rules for the tags of blocks and links -/

theorem bodyStart_div (b : Builder) (name : tag.name = "div") :
    b.bodyStart tag = b.closeParagraph.insertTag tag := by
  simp [bodyStart, name, headNames, blockNames]

theorem bodyStart_pre (b : Builder) (name : tag.name = "pre") :
    b.bodyStart tag = { (b.closeParagraph.insertTag tag).weighty with skipNewline := true } := by
  simp [bodyStart, name, headNames, blockNames, headingNames]

theorem bodyStart_link (b : Builder) (name : tag.name = "a") :
    b.bodyStart tag = b.closeLink.reconstruct.insertFormatting tag := by
  simp [bodyStart, name, headNames, blockNames, headingNames]

theorem bodyEnd_block (b : Builder) (block : name = "div" ∨ name = "pre") :
    b.bodyEnd name =
      done (if b.inScope .ordinary [name] then b.closeImplied.popThrough [name] else b) := by
  rcases block with rfl | rfl <;> simp [bodyEnd, closableNames]

theorem bodyEnd_link (b : Builder) : b.bodyEnd "a" = done (b.closeFormatting "a") := by
  simp [bodyEnd, closableNames, headingNames]

namespace Inside

theorem opened : Inside opened .framed [⟨3, .html, "body"⟩, ⟨1, .html, "html"⟩] [] :=
  ⟨rfl, rfl, rfl, rfl, rfl, rfl, rfl⟩

theorem forgetful (inside : Inside b a stack formatting) :
    Inside { b with skipNewline := false } a stack formatting := by
  obtain ⟨arena, stack, formatting, mode, model, placed, templates⟩ := inside
  exact ⟨arena, stack, formatting, mode, model, placed, templates⟩

theorem ready (inside : Inside b a (e :: below) formatting) (native : e.vocabulary = .html) :
    b.Ready := by
  refine ⟨inside.model, ?_⟩
  simp [inForeign, inside.stack, native]

theorem step (inside : Inside b a (e :: below) formatting) (native : e.vocabulary = .html)
    (t : Token) : b.step t = b.inBody t := by
  have own : b.isForeign t = false := by
    simp [isForeign, inside.stack, isForeignIn, native]
  rw [Builder.step, own, rules, inside.mode]
  rfl

/-- Whether all formatting is open. -/
def Settled (stack : List Open) (formatting : List Formatting) : Prop :=
  ∀ f ∈ formatting.head?, ∃ id tag, f = .element id tag ∧ stack.any (·.id == id) = true

theorem reconstruct (inside : Inside b a stack formatting) (settled : Settled stack formatting) :
    b.reconstruct = b := by
  have nothing : b.reopen b.formatting = (b, b.formatting) := by
    rw [inside.formatting]
    cases formatting with
    | nil => rfl
    | cons f rest =>
      obtain ⟨id, tag, rfl, isOpen⟩ := settled f rfl
      have isOpen : b.isOpenId id = true := by rw [isOpenId, inside.stack, isOpen]
      rw [reopen, if_pos isOpen]
  rw [Builder.reconstruct, nothing]

theorem place (inside : Inside b a (e :: below) formatting) : b.place = .inside e.id := by
  simp [Builder.place, inside.stack, placeFor, inside.placed]

theorem addChar (inside : Inside b a (e :: below) formatting) (c : Char) :
    Inside (b.addChar c) (a.append e.id (.char c)) (e :: below) formatting := by
  refine ⟨?_, inside.stack, inside.formatting, inside.mode, inside.model, inside.placed,
    inside.templates⟩
  rw [Builder.addChar, inside.place, inside.arena]
  rfl

theorem weighty (inside : Inside b a stack formatting) : Inside b.weighty a stack formatting := by
  obtain ⟨arena, stack, formatting, mode, model, placed, templates⟩ := inside
  exact ⟨arena, stack, formatting, mode, model, placed, templates⟩

theorem bodyChar (inside : Inside b a (e :: below) formatting)
    (settled : Settled (e :: below) formatting) (kept : c ≠ '\x00') :
    Inside (b.bodyChar c) (a.append e.id (.char c)) (e :: below) formatting := by
  rw [Builder.bodyChar, if_neg kept, inside.reconstruct settled]
  split
  · exact inside.addChar c
  · exact (inside.addChar c).weighty

theorem insertTag (inside : Inside b a (e :: below) formatting) (tag : Tag) :
    Inside (b.insertTag tag) (a.grown e.id ⟨.html, tag.name, tag.attributes⟩)
      (⟨a.nodes.size, .html, tag.name⟩ :: e :: below) formatting := by
  refine ⟨?_, ?_, inside.formatting, inside.mode, inside.model, inside.placed, inside.templates⟩
  · simp only [Builder.insertTag, insert, inside.place, inside.arena, Place.put, Arena.grown,
      Arena.create]
  · simp only [Builder.insertTag, insert, inside.stack, inside.arena, Arena.create]

theorem closeParagraph (inside : Inside b a stack formatting)
    (none : reaches (·.isOneOf ["p"]) Scope.button.stops stack = false) : b.closeParagraph = b := by
  have unseen : b.inScope .button ["p"] = false := by rw [inScope, inside.stack, none]
  rw [Builder.closeParagraph, if_neg (by simp [unseen])]

/-- A character is added to the innermost element. -/
theorem feed_char (inside : Inside b a (e :: below) formatting) (native : e.vocabulary = .html)
    (settled : Settled (e :: below) formatting) (kept : c ≠ '\x00')
    (unskipped : b.skipNewline = true → c ≠ '\n') :
    Inside (b.feed (.char c)) (a.append e.id (.char c)) (e :: below) formatting ∧
      (b.feed (.char c)).skipNewline = false := by
  have finished : { b with skipNewline := false }.step (.char c) =
      done ({ b with skipNewline := false }.bodyChar c) := by
    rw [inside.forgetful.step native]
    rfl
  rw [feed_of_done (fun skips is => unskipped skips (Token.char.inj is)) finished]
  refine ⟨inside.forgetful.bodyChar settled kept, ?_⟩
  rw [Builder.bodyChar, if_neg kept, inside.forgetful.reconstruct settled]
  split <;> rfl

/-- A line feed right behind the start of preformatted text is no part of the text. -/
theorem feed_skipped (inside : Inside b a stack formatting) (skips : b.skipNewline = true) :
    Inside (b.feed (.char '\n')) a stack formatting ∧
      (b.feed (.char '\n')).skipNewline = false := by
  have dropped : b.feed (.char '\n') = { b with skipNewline := false } := by
    rw [feed]
    simp only [skips, beq_self_eq_true, Bool.and_self, if_true]
  rw [dropped]
  exact ⟨inside.forgetful, rfl⟩

theorem feed_startTag (inside : Inside b a (e :: below) formatting) (native : e.vocabulary = .html)
    (tag : Tag) : b.feed (.startTag tag) = { b with skipNewline := false }.bodyStart tag := by
  apply feed_of_done (by simp)
  rw [inside.forgetful.step native]
  rfl

theorem feed_endTag (inside : Inside b a (e :: below) formatting) (native : e.vocabulary = .html)
    (finished : { b with skipNewline := false }.bodyEnd name = done b') :
    b.feed (.endTag name) = b' := by
  apply feed_of_done (by simp)
  rw [inside.forgetful.step native]
  exact finished

/-- The end of the text leaves the document as it is. -/
theorem feed_eof (inside : Inside b a (e :: below) formatting) (native : e.vocabulary = .html) :
    (b.feed .eof).arena = a := by
  have finished : { b with skipNewline := false }.step .eof = done { b with skipNewline := false } := by
    rw [inside.forgetful.step native, inBody, if_pos (by simp [inside.templates])]
  rw [feed_of_done (by simp) finished]
  exact inside.arena

theorem closeBlock (inside : Inside b a (⟨number, .html, name⟩ :: below) formatting)
    (block : name = "div" ∨ name = "pre") :
    Inside (if b.inScope .ordinary [name] then b.closeImplied.popThrough [name] else b) a below
      formatting := by
  have reached : b.inScope .ordinary [name] = true := by
    simp [inScope, inside.stack, reaches, Open.isOneOf]
  have kept : b.closeImplied = b := by
    obtain ⟨arena, stack, formatting, mode, model, placed, templates⟩ := inside
    obtain ⟨⟩ := b
    simp only at stack
    rcases block with rfl | rfl <;> simp [closeImplied, stack, Open.isOneOf, impliedEnds]
  rw [if_pos reached, kept]
  refine ⟨inside.arena, ?_, inside.formatting, inside.mode, inside.model, inside.placed,
    inside.templates⟩
  simp [popThrough, inside.stack, dropThrough, Open.isOneOf]

/-- The start tag of a link opens an element that is formatting. -/
theorem openLink (inside : Inside b a (e :: below) []) (tag : Tag) (name : tag.name = "a") :
    Inside (b.bodyStart tag) (a.grown e.id ⟨.html, "a", tag.attributes⟩)
      (⟨a.nodes.size, .html, "a"⟩ :: e :: below) [.element a.nodes.size tag] := by
  have nothing : b.recentFormatting = [] := by rw [recentFormatting, inside.formatting]; rfl
  have closed : b.closeLink = b := by rw [closeLink, nothing]; rfl
  have settled : Settled (e :: below) [] := by
    intro f first
    contradiction
  have opens := inside.insertTag tag
  rw [name] at opens
  rw [bodyStart_link b name, closed, inside.reconstruct settled]
  refine ⟨opens.arena, opens.stack, ?_, opens.mode, opens.model, opens.placed, opens.templates⟩
  simp [insertFormatting, limitAlike, nothing, inside.formatting, inside.arena]

theorem feed_link (inside : Inside b a (e :: below) []) (native : e.vocabulary = .html) (tag : Tag)
    (name : tag.name = "a") :
    Inside (b.feed (.startTag tag)) (a.grown e.id ⟨.html, "a", tag.attributes⟩)
      (⟨a.nodes.size, .html, "a"⟩ :: e :: below) [.element a.nodes.size tag] := by
  rw [inside.feed_startTag native]
  exact inside.forgetful.openLink tag name

/-- The end tag of a link closes it for good. -/
theorem closeLink (inside : Inside b a (⟨number, .html, "a"⟩ :: below) [.element number tag])
    (name : tag.name = "a") : Inside (b.closeFormatting "a") a below [] := by
  have remembered : b.formatting.any (·.hasId number) = true := by
    simp [inside.formatting, Formatting.hasId]
  have found : b.recentFormatting.find? (·.hasName "a") = some (.element number tag) := by
    simp [recentFormatting, inside.formatting, Formatting.isMarker, Formatting.hasName, name]
  have isOpen : b.isOpenId number = true := by simp [isOpenId, inside.stack]
  have reached : reaches (·.id == number) Scope.ordinary.stops
      (⟨number, .html, "a"⟩ :: below) = true := by
    simp [reaches]
  have closes : b.closeFormatting "a" = { b with stack := below, formatting := [] } := by
    rw [closeFormatting, inside.stack]
    simp only [remembered]
    simp [adopt, found, isOpen, reached, inside.stack, splitStack, splitAtBlock, inside.formatting,
      Formatting.hasId]
  rw [closes]
  exact ⟨inside.arena, rfl, rfl, inside.mode, inside.model, inside.placed, inside.templates⟩

theorem feed_linkEnd (inside : Inside b a (⟨number, .html, "a"⟩ :: below) [.element number tag])
    (name : tag.name = "a") : Inside (b.feed (.endTag "a")) a below [] := by
  rw [inside.feed_endTag rfl (bodyEnd_link _)]
  exact inside.forgetful.closeLink name

theorem feed_div (inside : Inside b a (e :: below) formatting) (native : e.vocabulary = .html)
    (tag : Tag) (name : tag.name = "div")
    (none : reaches (·.isOneOf ["p"]) Scope.button.stops (e :: below) = false) :
    Inside (b.feed (.startTag tag)) (a.grown e.id ⟨.html, "div", tag.attributes⟩)
      (⟨a.nodes.size, .html, "div"⟩ :: e :: below) formatting := by
  rw [inside.feed_startTag native, bodyStart_div _ name, inside.forgetful.closeParagraph none, ← name]
  exact inside.forgetful.insertTag tag

theorem feed_pre (inside : Inside b a (e :: below) formatting) (native : e.vocabulary = .html)
    (tag : Tag) (name : tag.name = "pre")
    (none : reaches (·.isOneOf ["p"]) Scope.button.stops (e :: below) = false) :
    Inside (b.feed (.startTag tag)) (a.grown e.id ⟨.html, "pre", tag.attributes⟩)
      (⟨a.nodes.size, .html, "pre"⟩ :: e :: below) formatting ∧
        (b.feed (.startTag tag)).skipNewline = true := by
  rw [inside.feed_startTag native, bodyStart_pre _ name, inside.forgetful.closeParagraph none, ← name]
  obtain ⟨arena, stack, formatting, mode, model, placed, templates⟩ :=
    inside.forgetful.insertTag tag
  exact ⟨⟨arena, stack, formatting, mode, model, placed, templates⟩, rfl⟩

theorem feed_blockEnd (inside : Inside b a (⟨number, .html, name⟩ :: below) formatting)
    (block : name = "div" ∨ name = "pre") : Inside (b.feed (.endTag name)) a below formatting := by
  rw [inside.feed_endTag rfl (bodyEnd_block _ block)]
  exact inside.forgetful.closeBlock block

end Inside
end Builder
end DocAnswers.Html.Tree
