import DocAnswers.Html.Tree.Construction
import DocAnswers.Proofs.Html.Linked

/-! What tree construction keeps, whatever the text: the document is a forest, and what is open are
elements of it. Each rule only takes elements off the stack, adds new ones, or sorts formatting out. -/
namespace DocAnswers.Html.Tree

namespace Builder

structure Sound (b : Builder) : Prop where
  linked : b.arena.Linked
  stack : ∀ e ∈ b.stack, b.arena.IsElement e.id
  head : ∀ e ∈ b.head, b.arena.IsElement e.id

variable {b b' : Builder} {a : Arena} {e : Open} {tag : Tag} {name : String} {t : Token}

@[simp]
theorem Place.isElement_put (p : Place) (a : Arena) (item : Item) (c : Nat) :
    (p.put a item).IsElement c ↔ a.IsElement c := by
  cases p with
  | inside => exact Arena.isElement_append ..
  | beforeTable table other =>
    rw [put]
    split
    · exact Arena.isElement_insertBefore ..
    · exact Arena.isElement_append ..

theorem Place.linked_put (p : Place) (linked : a.Linked)
    (element : ∀ id, item = .node id → a.IsElement id) : (p.put a item).Linked := by
  cases p with
  | inside id => exact linked.append element id
  | beforeTable table other =>
    rw [put]
    split
    · exact linked.insertBefore element table
    · exact linked.append element other

/-! What is left of the stack -/

theorem mem_of_mem_dropThrough (test : Open → Bool) {stack : List Open}
    (member : e ∈ dropThrough test stack) : e ∈ stack := by
  induction stack with
  | nil => contradiction
  | cons f below ih =>
    rw [dropThrough] at member
    split at member
    · exact .tail _ member
    · exact .tail _ (ih member)

theorem mem_of_mem_dropGeneric {all stack : List Open} (part : ∀ e ∈ stack, e ∈ all)
    (member : e ∈ dropGeneric name all stack) : e ∈ all := by
  induction stack with
  | nil => exact member
  | cons f below ih =>
    have below' : ∀ e ∈ below, e ∈ all := fun e member => part e (.tail _ member)
    rw [dropGeneric] at member
    split at member
    · exact below' e member
    · split at member
      · exact member
      · exact ih below' member

namespace Sound

theorem empty : Sound {} := ⟨.empty, by simp, by simp⟩

/-- Only the document, the stack and the head matter. -/
@[grind ←]
theorem update (sound : b.Sound) (mode returnMode formatting templateModes form framesetOk fostering
    skipNewline oldRules tableText contentModel) :
    Sound ⟨b.arena, mode, returnMode, b.stack, formatting, templateModes, b.head, form, framesetOk,
      fostering, skipNewline, oldRules, tableText, contentModel⟩ := by
  obtain ⟨linked, stack, head⟩ := sound
  exact ⟨linked, stack, head⟩

theorem shrink (sound : b.Sound) (arena : b'.arena = b.arena) (head : b'.head = b.head)
    (part : ∀ e ∈ b'.stack, e ∈ b.stack) : b'.Sound := by
  refine ⟨arena ▸ sound.linked, ?_, ?_⟩
  · intro e member
    rw [arena]
    exact sound.stack e (part e member)
  · rw [arena, head]
    exact sound.head

@[grind ←]
theorem pop (sound : b.Sound) : b.pop.Sound :=
  sound.shrink rfl rfl fun _ => List.mem_of_mem_tail

@[grind ←]
theorem removeOpen (sound : b.Sound) (id : Nat) : (b.removeOpen id).Sound :=
  sound.shrink rfl rfl fun _ member => (List.mem_filter.mp member).1

@[grind ←]
theorem popThrough (sound : b.Sound) (names : List String) : (b.popThrough names).Sound :=
  sound.shrink rfl rfl fun _ => mem_of_mem_dropThrough _

theorem dropWhile (sound : b.Sound) (test : Open → Bool) :
    Sound { b with stack := b.stack.dropWhile test } :=
  sound.shrink rfl rfl fun _ member => (List.dropWhile_sublist _).mem member

@[grind ←]
theorem popTo (sound : b.Sound) (names : List String) : (b.popTo names).Sound := sound.dropWhile _

@[grind ←]
theorem closeImplied (sound : b.Sound) : b.closeImplied.Sound := sound.dropWhile _

@[grind ←]
theorem closeImpliedBut (sound : b.Sound) (name : String) : (b.closeImpliedBut name).Sound :=
  sound.dropWhile _

@[grind ←]
theorem closeThoroughlyImplied (sound : b.Sound) : b.closeThoroughlyImplied.Sound :=
  sound.dropWhile _

@[grind ←]
theorem leaveForeign (sound : b.Sound) : b.leaveForeign.Sound := sound.dropWhile _

@[grind ←]
theorem closeParagraph (sound : b.Sound) : b.closeParagraph.Sound := by
  grind [Builder.closeParagraph]

@[grind ←]
theorem closeGeneric (sound : b.Sound) (name : String) : (b.closeGeneric name).Sound :=
  sound.shrink rfl rfl fun _ => mem_of_mem_dropGeneric fun _ member => member

@[grind ←]
theorem resetMode (sound : b.Sound) : b.resetMode.Sound := sound.update ..

theorem addAttributes (sound : b.Sound) (id : Nat) (new : List Attribute) :
    Sound { b with arena := b.arena.addAttributes id new } := by
  refine ⟨sound.linked.addAttributes id new, ?_, ?_⟩
  · intro e member
    exact (Arena.isElement_addAttributes ..).mpr (sound.stack e member)
  · intro e member
    exact (Arena.isElement_addAttributes ..).mpr (sound.head e member)

@[grind ←]
theorem mergeRoot (sound : b.Sound) (tag : Tag) : (b.mergeRoot tag).Sound := by
  rw [Builder.mergeRoot]
  split
  · exact sound
  · split
    · exact sound
    · exact sound.addAttributes ..

/-! New content -/

@[grind ←]
theorem addChar (sound : b.Sound) (c : Char) : (b.addChar c).Sound := by
  refine ⟨b.place.linked_put sound.linked (by simp), ?_, ?_⟩
  · intro e member
    exact (Place.isElement_put ..).mpr (sound.stack e member)
  · intro e member
    exact (Place.isElement_put ..).mpr (sound.head e member)

@[grind ←]
theorem insert (sound : b.Sound) (vocabulary : Vocabulary) (name : String)
    (attributes : List Attribute) : (b.insert vocabulary name attributes).Sound := by
  let e : Element := ⟨vocabulary, name, attributes⟩
  have new : (b.arena.create e).1.IsElement b.arena.nodes.size := Arena.isElement_new b.arena e
  refine ⟨b.place.linked_put (sound.linked.create e) ?_, ?_, ?_⟩
  · rintro id ⟨⟩
    exact new
  · intro f member
    rw [Builder.insert]
    refine (Place.isElement_put ..).mpr ?_
    rcases List.mem_cons.mp member with rfl | older
    · exact new
    · exact Arena.isElement_create e (sound.stack f older)
  · intro f member
    exact (Place.isElement_put ..).mpr (Arena.isElement_create e (sound.head f member))

@[grind ←]
theorem insertTag (sound : b.Sound) (tag : Tag) : (b.insertTag tag).Sound := sound.insert ..

@[grind ←]
theorem insertNamed (sound : b.Sound) (name : String) : (b.insertNamed name).Sound :=
  sound.insert ..

@[grind ←]
theorem insertVoid (sound : b.Sound) (tag : Tag) : (b.insertVoid tag).Sound :=
  (sound.insertTag tag).pop

@[grind ←]
theorem insertRaw (sound : b.Sound) (tag : Tag) (model : ContentModel) :
    (b.insertRaw tag model).Sound := (sound.insertTag tag).update ..

/-! Formatting -/

@[grind ←]
theorem insertMarker (sound : b.Sound) : b.insertMarker.Sound := sound.update ..

@[grind ←]
theorem clearToMarker (sound : b.Sound) : b.clearToMarker.Sound := sound.update ..

@[grind ←]
theorem insertFormatting (sound : b.Sound) (tag : Tag) : (b.insertFormatting tag).Sound :=
  (sound.insertTag tag).update ..

theorem reopen (sound : b.Sound) (fs : List Formatting) : (b.reopen fs).1.Sound := by
  induction fs with
  | nil => exact sound
  | cons f fs ih =>
    cases f with
    | marker => exact sound
    | element id tag =>
      rw [Builder.reopen]
      split
      · exact sound
      · exact ih.insertTag tag

@[grind ←]
theorem reconstruct (sound : b.Sound) : b.reconstruct.Sound := (sound.reopen _).update ..

end Sound

/-- What holds while the elements between a formatting element and a block are sorted out. -/
structure Sorted.Sound (before : Arena) (s : Sorted) : Prop where
  linked : s.arena.Linked
  last : s.arena.IsElement s.last
  kept : ∀ e ∈ s.kept, s.arena.IsElement e.id
  older : ∀ id, before.IsElement id → s.arena.IsElement id

namespace Sorted.Sound

/-- A clone is put around the last element. -/
theorem wrap {s : Sorted} (sound : s.Sound a) (e : Element) (formatting : List Formatting)
    (bookmark : Bookmark) (name : String) :
    Sorted.Sound a {
      arena := (s.arena.create e).1.append s.arena.nodes.size (.node s.last)
      formatting
      last := s.arena.nodes.size
      bookmark
      kept := s.kept ++ [⟨s.arena.nodes.size, .html, name⟩] } := by
  have new : (s.arena.create e).1.IsElement s.arena.nodes.size := Arena.isElement_new s.arena e
  refine ⟨(sound.linked.create e).append ?_ _, by simpa using new, ?_, ?_⟩
  · rintro id ⟨⟩
    exact Arena.isElement_create e sound.last
  · intro f member
    rw [Arena.isElement_append]
    rcases List.mem_append.mp member with older | clone
    · exact Arena.isElement_create e (sound.kept f older)
    · obtain rfl := List.mem_singleton.mp clone
      exact new
  · intro id element
    rw [Arena.isElement_append]
    exact Arena.isElement_create e (sound.older id element)

theorem sortOut {s : Sorted} (sound : s.Sound a) (block count : Nat) (between : List Open) :
    (sortOut block s count between).Sound a := by
  induction between generalizing s count with
  | nil => exact sound
  | cons e rest ih =>
    obtain ⟨s', forgetful, sound'⟩ : ∃ s' : Sorted, (if 3 < count then
        { s with formatting := s.formatting.eraseP (·.hasId e.id) } else s) = s' ∧ s'.Sound a := by
      refine ⟨_, rfl, ?_⟩
      split
      · exact ⟨sound.linked, sound.last, sound.kept, sound.older⟩
      · exact sound
    simp only [Builder.sortOut, forgetful]
    split
    · exact ih sound' _
    · exact ih (sound'.wrap ..) _

end Sorted.Sound

theorem mem_of_splitStack {id : Nat} {stack inside outer : List Open}
    (split : splitStack id stack = (inside, outer)) : ∀ e ∈ inside ++ outer, e ∈ stack := by
  induction stack generalizing inside outer with
  | nil =>
    obtain ⟨⟩ := split
    simp
  | cons f below ih =>
    rw [splitStack] at split
    split at split
    · obtain ⟨rfl, rfl⟩ := Prod.mk.inj split
      intro e member
      exact .tail _ member
    · obtain ⟨rfl, rfl⟩ := Prod.mk.inj split
      intro e member
      rcases List.mem_cons.mp member with rfl | later
      · exact .head _
      · exact .tail _ (ih rfl e later)

theorem eq_of_splitAtBlock {stack inner between : List Open} {block : Open}
    (split : splitAtBlock stack = some (inner, block, between)) :
    stack = inner ++ block :: between := by
  induction stack generalizing inner with
  | nil => contradiction
  | cons f below ih =>
    rw [splitAtBlock] at split
    split at split
    · rename_i found
      obtain ⟨rfl, rfl, rfl⟩ : f :: _ = inner ∧ _ = block ∧ _ = between := by simpa using split
      rw [ih found]
      rfl
    · split at split
      · obtain ⟨rfl, rfl, rfl⟩ : [] = inner ∧ f = block ∧ below = between := by simpa using split
        rfl
      · contradiction

/-- An arena with an element put where the formatting element around it stands. -/
def relocated (b : Builder) (a : Arena) (last : Nat) : List Open → Arena
  | [] => a
  | ancestor :: _ => (b.placeFor ancestor).put a (.node last)

theorem linked_relocated (b : Builder) (linked : a.Linked) (element : a.IsElement last)
    (outer : List Open) : (b.relocated a last outer).Linked := by
  cases outer with
  | nil => exact linked
  | cons ancestor =>
    apply Place.linked_put _ linked
    rintro id ⟨⟩
    exact element

@[simp]
theorem isElement_relocated (b : Builder) (a : Arena) (last : Nat) (outer : List Open) (id : Nat) :
    (b.relocated a last outer).IsElement id ↔ a.IsElement id := by
  cases outer with
  | nil => rfl
  | cons ancestor => exact Place.isElement_put ..

/-- What is left when the elements have been sorted out: a clone takes over the content of the block. -/
def rewrapped (b : Builder) (s : Sorted) (id : Nat) (tag : Tag) (inner : List Open) (block : Open)
    (outer : List Open) : Builder :=
  let placed := b.relocated (s.arena.detach s.last) s.last outer
  let clone := placed.nodes.size
  { b with
    arena := ((placed.create ⟨.html, tag.name, tag.attributes⟩).1.moveContent block.id clone).append
      block.id (.node clone)
    formatting := rememberClone id clone tag s.bookmark s.formatting
    stack := inner ++ ⟨clone, .html, tag.name⟩ :: block :: s.kept ++ outer }

theorem unwrap_eq (b : Builder) (id : Nat) (tag : Tag) (inner : List Open) (block : Open)
    (between outer : List Open) :
    b.unwrap id tag inner block between outer =
      b.rewrapped (sortOut block.id
        { arena := b.arena, formatting := b.formatting, last := block.id } 1 between)
        id tag inner block outer := by
  cases outer <;> rfl

namespace Sound

theorem rewrapped (sound : b.Sound) {s : Sorted} (sorted : s.Sound b.arena) (id : Nat) (tag : Tag)
    {inner outer : List Open} {block : Open} (part : ∀ e ∈ inner ++ block :: outer, e ∈ b.stack) :
    (b.rewrapped s id tag inner block outer).Sound := by
  let placed := b.relocated (s.arena.detach s.last) s.last outer
  let e : Element := ⟨.html, tag.name, tag.attributes⟩
  let rewrapped := ((placed.create e).1.moveContent block.id placed.nodes.size).append block.id
    (.node placed.nodes.size)
  obtain ⟨detached, -⟩ := sorted.linked.detach sorted.last
  have linked : placed.Linked := b.linked_relocated detached (by simpa using sorted.last) outer
  have named (id : Nat) (element : s.arena.IsElement id) : placed.IsElement id := by
    simpa [placed] using element
  have blockElement : placed.IsElement block.id :=
    named _ (sorted.older _ (sound.stack block (part block (by simp))))
  have moved := (linked.create e).moveContent (Nat.ne_of_lt blockElement.lt_size)
  have new : (placed.create e).1.IsElement placed.nodes.size := Arena.isElement_new placed e
  have older (id : Nat) (element : s.arena.IsElement id) : rewrapped.IsElement id := by
    simpa [rewrapped] using Arena.isElement_create e (named id element)
  refine ⟨moved.append ?_ block.id, ?_, ?_⟩
  · rintro id ⟨⟩
    simpa using new
  · intro f member
    change f ∈ inner ++ ⟨placed.nodes.size, .html, tag.name⟩ :: block :: s.kept ++ outer at member
    change rewrapped.IsElement f.id
    have old (member : f ∈ inner ++ block :: outer) : rewrapped.IsElement f.id :=
      older _ (sorted.older _ (sound.stack f (part f member)))
    simp only [List.cons_append, List.append_assoc, List.mem_append, List.mem_cons] at member old
    rcases member with inside | rfl | rfl | kept | outside
    · exact old (.inl inside)
    · simpa [rewrapped] using new
    · exact old (.inr (.inl rfl))
    · exact older _ (sorted.kept f kept)
    · exact old (.inr (.inr outside))
  · intro f member
    simp only [Builder.rewrapped] at member
    exact older _ (sorted.older _ (sound.head f member))

theorem unwrap (sound : b.Sound) (id : Nat) (tag : Tag) {inner between outer : List Open}
    {block : Open} (part : ∀ e ∈ inner ++ block :: outer, e ∈ b.stack) :
    (b.unwrap id tag inner block between outer).Sound := by
  have start : Sorted.Sound b.arena
      { arena := b.arena, formatting := b.formatting, last := block.id } :=
    ⟨sound.linked, sound.stack block (part block (by simp)), by simp, fun _ older => older⟩
  rw [unwrap_eq]
  exact sound.rewrapped (start.sortOut block.id 1 between) id tag part

theorem adopt (sound : b.Sound) (name : String) (count : Nat) : (adopt name count b).Sound := by
  induction count generalizing b with
  | zero => exact sound
  | succ count ih =>
    rw [Builder.adopt]
    split
    · exact sound.closeGeneric name
    · exact sound
    · rename_i id tag _
      split
      · exact sound.update ..
      · split
        · exact sound
        · generalize split : splitStack id b.stack = parts
          obtain ⟨inside, outer⟩ := parts
          have part := mem_of_splitStack split
          simp only
          split
          · exact sound.shrink rfl rfl fun e member => part e (List.mem_append_right _ member)
          · rename_i inner block between found
            apply ih
            apply sound.unwrap
            intro e member
            apply part
            rw [eq_of_splitAtBlock found]
            simp only [List.mem_append, List.mem_cons] at member ⊢
            rcases member with inside | rfl | outside
            · exact .inl (.inl inside)
            · exact .inl (.inr (.inl rfl))
            · exact .inr outside

@[grind ←]
theorem closeFormatting (sound : b.Sound) (name : String) : (b.closeFormatting name).Sound := by
  rw [Builder.closeFormatting]
  split
  · rename_i e below found
    split
    · refine sound.shrink rfl rfl ?_
      rw [found]
      exact fun _ => .tail _
    · exact sound.adopt name 8
  · exact sound.adopt name 8

@[grind ←]
theorem closeLink (sound : b.Sound) : b.closeLink.Sound := by
  rw [Builder.closeLink]
  split
  · exact (sound.closeFormatting "a").shrink rfl rfl fun _ member => (List.mem_filter.mp member).1
  · exact sound

end Sound
end Builder
end DocAnswers.Html.Tree
