import DocAnswers.Proofs.Html.Sound

/-! The rules of all modes keep documents sound, and so does the construction from any text. -/
namespace DocAnswers.Html.Tree

/-- Whether a token has been treated soundly. -/
def Step.Sound : Step → Prop
  | .done b => b.Sound
  | .again b => b.Sound

attribute [grind] Step.Sound

theorem Step.sound_ite {c : Prop} [Decidable c] {s s' : Step} (first : s.Sound) (second : s'.Sound) :
    (if c then s else s').Sound := by
  split
  · exact first
  · exact second

namespace Builder.Sound
variable {b b' : Builder} {a : Arena} {e : Open} {tag : Tag} {name : String} {t : Token}

theorem ite {c : Prop} [Decidable c] (first : b.Sound) (second : b'.Sound) :
    (if c then b else b').Sound := by
  split
  · exact first
  · exact second

/-! Up to the body -/

@[grind ←]
theorem openHead (sound : b.Sound) (tag : Tag) : (b.openHead tag).Sound := by
  have opened := sound.insertTag tag
  refine ⟨opened.linked, opened.stack, ?_⟩
  intro e head
  exact opened.stack e (List.mem_of_mem_head? head)

@[grind ←]
theorem openHeadElement (sound : b.Sound) (tag : Tag) : (b.openHeadElement tag).Sound := by
  grind [Builder.openHeadElement]

@[grind ←]
theorem closeTemplate (sound : b.Sound) : b.closeTemplate.Sound := by
  grind [Builder.closeTemplate]

@[grind ←]
theorem reopenHead (sound : b.Sound) (tag : Tag) : (b.reopenHead tag).Sound := by
  rw [Builder.reopenHead]
  split
  · exact sound.openHeadElement tag
  · rename_i head found
    have pushed : Sound { b with stack := head :: b.stack } := by
      refine ⟨sound.linked, ?_, sound.head⟩
      intro e member
      rcases List.mem_cons.mp member with rfl | older
      · exact sound.head e found
      · exact sound.stack e older
    exact (pushed.openHeadElement tag).removeOpen head.id

@[grind ←]
theorem initial (sound : b.Sound) (t : Token) : (b.initial t).Sound := by
  cases t <;> grind [Builder.initial]

@[grind ←]
theorem beforeHtml (sound : b.Sound) (t : Token) : (b.beforeHtml t).Sound := by
  cases t <;> grind [Builder.beforeHtml]

@[grind ←]
theorem beforeHead (sound : b.Sound) (t : Token) : (b.beforeHead t).Sound := by
  cases t <;> grind [Builder.beforeHead]

@[grind ←]
theorem inHead (sound : b.Sound) (t : Token) : (b.inHead t).Sound := by
  cases t <;> grind [Builder.inHead]

@[grind ←]
theorem afterHead (sound : b.Sound) (t : Token) : (b.afterHead t).Sound := by
  cases t <;> grind [Builder.afterHead]

/-! In the body -/

@[grind ←]
theorem weighty (sound : b.Sound) : b.weighty.Sound := sound.update ..

@[grind ←]
theorem insertItem (sound : b.Sound) (tag : Tag) (names : List String) :
    (b.insertItem tag names).Sound := by
  grind [Builder.insertItem]

@[grind ←]
theorem mergeBody (sound : b.Sound) (tag : Tag) : (b.mergeBody tag).Sound := by
  rw [Builder.mergeBody]
  split
  · exact sound
  · split
    · exact sound
    · exact (sound.addAttributes ..).update ..

theorem mem_of_body? (found : b.body? = some e) : e ∈ b.stack := by
  rw [body?] at found
  split at found
  · rename_i root below stack
    split at found
    · obtain rfl := Option.some.inj found
      apply List.mem_reverse.mp
      rw [stack]
      exact .tail _ (.head _)
    · contradiction
  · contradiction

@[grind ←]
theorem replaceBody (sound : b.Sound) (tag : Tag) : (b.replaceBody tag).Sound := by
  rw [Builder.replaceBody]
  split
  · exact sound
  · split
    · exact sound
    · rename_i body found
      obtain ⟨linked, -⟩ := sound.linked.detach (sound.stack body (mem_of_body? found))
      have detached : Sound { b with
          arena := b.arena.detach body.id
          stack := b.stack.drop (b.stack.length - 1) } := by
        refine ⟨linked, ?_, ?_⟩
        · intro e member
          exact (Arena.isElement_detach ..).mpr (sound.stack e (List.mem_of_mem_drop member))
        · intro e member
          exact (Arena.isElement_detach ..).mpr (sound.head e member)
      exact (detached.insertTag tag).update ..

@[grind ←]
theorem openForm (sound : b.Sound) (tag : Tag) : (b.openForm tag).Sound := by
  grind [Builder.openForm]

@[grind ←]
theorem closeForm (sound : b.Sound) : b.closeForm.Sound := by
  grind [Builder.closeForm]

@[grind ←]
theorem openSelect (sound : b.Sound) (tag : Tag) : (b.openSelect tag).Sound :=
  (sound.reconstruct.insertTag tag).update ..

@[grind ←]
theorem insertForeign (sound : b.Sound) (vocabulary : Vocabulary) (tag : Tag) :
    (b.insertForeign vocabulary tag).Sound := by
  grind [Builder.insertForeign]

@[grind ←]
theorem openTable (sound : b.Sound) (tag : Tag) : (b.openTable tag).Sound := by
  grind [Builder.openTable]

@[grind ←]
theorem bodyStart (sound : b.Sound) (tag : Tag) : (b.bodyStart tag).Sound := by
  unfold Builder.bodyStart
  dsimp only
  repeat' with_reducible apply ite
  all_goals grind

@[grind ←]
theorem closeBody (sound : b.Sound) : b.closeBody.Sound := by
  grind [Builder.closeBody]

@[grind ←]
theorem bodyEnd (sound : b.Sound) (name : String) : (b.bodyEnd name).Sound := by
  unfold Builder.bodyEnd
  repeat' with_reducible apply Step.sound_ite
  all_goals grind

@[grind ←]
theorem bodyChar (sound : b.Sound) (c : Char) : (b.bodyChar c).Sound := by
  grind [Builder.bodyChar]

@[grind ←]
theorem templateEof (sound : b.Sound) : b.templateEof.Sound := by
  grind [Builder.templateEof]

@[grind ←]
theorem inBody (sound : b.Sound) (t : Token) : (b.inBody t).Sound := by
  cases t with
  | comment => exact sound
  | doctype => exact sound
  | char c => exact sound.bodyChar c
  | startTag tag => exact sound.bodyStart tag
  | endTag name => exact sound.bodyEnd name
  | eof => exact Step.sound_ite sound sound.templateEof

@[grind ←]
theorem text (sound : b.Sound) (t : Token) : (b.text t).Sound := by
  cases t with
  | char c => exact sound.addChar c
  | endTag => exact sound.pop.update ..
  | eof => exact sound.pop.update ..
  | _ => exact sound

@[grind ←]
theorem afterBody (sound : b.Sound) (t : Token) : (b.afterBody t).Sound := by
  cases t <;> grind [Builder.afterBody]

@[grind ←]
theorem afterAfterBody (sound : b.Sound) (t : Token) : (b.afterAfterBody t).Sound := by
  cases t <;> grind [Builder.afterAfterBody]

@[grind ←]
theorem frameStart (sound : b.Sound) (tag : Tag) : (b.frameStart tag).Sound := by
  grind [Builder.frameStart]

@[grind ←]
theorem inFrameset (sound : b.Sound) (t : Token) : (b.inFrameset t).Sound := by
  cases t <;> grind [Builder.inFrameset]

@[grind ←]
theorem afterFrameset (sound : b.Sound) (t : Token) : (b.afterFrameset t).Sound := by
  cases t <;> grind [Builder.afterFrameset]

@[grind ←]
theorem afterAfterFrameset (sound : b.Sound) (t : Token) : (b.afterAfterFrameset t).Sound := by
  cases t <;> grind [Builder.afterAfterFrameset]

/-! In tables, selections and templates -/

@[grind ←]
theorem fosterInBody (sound : b.Sound) (t : Token) : (b.fosterInBody t).Sound := by
  have treated : (Builder.inBody { b with fostering := true } t).Sound := (sound.update ..).inBody t
  grind [Builder.fosterInBody]

theorem addChars (sound : b.Sound) (cs : List Char) : (cs.foldl Builder.addChar b).Sound := by
  induction cs generalizing b with
  | nil => exact sound
  | cons c cs ih => exact ih (sound.addChar c)

theorem bodyChars (sound : b.Sound) (cs : List Char) : (cs.foldl Builder.bodyChar b).Sound := by
  induction cs generalizing b with
  | nil => exact sound
  | cons c cs ih => exact ih (sound.bodyChar c)

@[grind ←]
theorem inTableText (sound : b.Sound) (t : Token) : (b.inTableText t).Sound := by
  have flushed (fostering : Bool) :
      Sound { b with tableText := [], mode := b.returnMode, fostering } := sound.update ..
  have plain := (flushed b.fostering).addChars b.tableText.reverse
  have fostered := (flushed true).bodyChars b.tableText.reverse
  cases t <;> grind [Builder.inTableText]

@[grind ←]
theorem closeTable (sound : b.Sound) : b.closeTable.Sound := (sound.popThrough _).resetMode

@[grind ←]
theorem insertPart (sound : b.Sound) (context : List String) (tag : Tag) (mode : Mode) :
    (b.insertPart context tag mode).Sound := ((sound.popTo context).insertTag tag).update ..

@[grind ←]
theorem tableStart (sound : b.Sound) (tag : Tag) : (b.tableStart tag).Sound := by
  unfold Builder.tableStart
  dsimp only
  repeat' with_reducible apply Step.sound_ite
  all_goals grind

@[grind ←]
theorem inTable (sound : b.Sound) (t : Token) : (b.inTable t).Sound := by
  cases t <;> grind [Builder.inTable]

@[grind ←]
theorem closeCaption (sound : b.Sound) : b.closeCaption.Sound := by
  grind [Builder.closeCaption]

@[grind ←]
theorem inCaption (sound : b.Sound) (t : Token) : (b.inCaption t).Sound := by
  cases t <;> grind [Builder.inCaption]

@[grind ←]
theorem inColumnGroup (sound : b.Sound) (t : Token) : (b.inColumnGroup t).Sound := by
  cases t <;> grind [Builder.inColumnGroup]

@[grind ←]
theorem closeSection (sound : b.Sound) : b.closeSection.Sound := (sound.popTo _).pop.update ..

@[grind ←]
theorem inTableBody (sound : b.Sound) (t : Token) : (b.inTableBody t).Sound := by
  cases t <;> grind [Builder.inTableBody]

@[grind ←]
theorem closeRow (sound : b.Sound) : b.closeRow.Sound := (sound.popTo _).pop.update ..

@[grind ←]
theorem inRow (sound : b.Sound) (t : Token) : (b.inRow t).Sound := by
  cases t <;> grind [Builder.inRow]

@[grind ←]
theorem closeCell (sound : b.Sound) (names : List String) : (b.closeCell names).Sound := by
  grind [Builder.closeCell]

@[grind ←]
theorem inCell (sound : b.Sound) (t : Token) : (b.inCell t).Sound := by
  cases t <;> grind [Builder.inCell]

@[grind ←]
theorem closeSelect (sound : b.Sound) : b.closeSelect.Sound := (sound.popThrough _).resetMode

@[grind ←]
theorem popOption (sound : b.Sound) : b.popOption.Sound := by
  grind [Builder.popOption]

@[grind ←]
theorem popGroup (sound : b.Sound) : b.popGroup.Sound := by
  grind [Builder.popGroup]

@[grind ←]
theorem closeGroup (sound : b.Sound) : b.closeGroup.Sound := by
  grind [Builder.closeGroup]

@[grind ←]
theorem inSelect (sound : b.Sound) (t : Token) : (b.inSelect t).Sound := by
  cases t <;> grind [Builder.inSelect]

@[grind ←]
theorem inSelectInTable (sound : b.Sound) (t : Token) : (b.inSelectInTable t).Sound := by
  cases t <;> grind [Builder.inSelectInTable]

@[grind ←]
theorem inTemplate (sound : b.Sound) (t : Token) : (b.inTemplate t).Sound := by
  cases t <;> grind [Builder.inTemplate]

/-! All modes -/

@[grind ←]
theorem rules (sound : b.Sound) (t : Token) : (b.rules t).Sound := by
  cases mode : b.mode <;> grind [Builder.rules]

@[grind ←]
theorem insertAlike (sound : b.Sound) (tag : Tag) : (b.insertAlike tag).Sound := by
  grind [Builder.insertAlike]

theorem mem_of_foreignEnd {stack rest : List Open} (found : foreignEnd name stack = .close rest) :
    ∀ e ∈ rest, e ∈ stack := by
  fun_induction foreignEnd name stack with
  | case1 => contradiction
  | case2 => contradiction
  | case3 => contradiction
  | case4 =>
    obtain rfl := ForeignEnd.close.inj found
    exact fun _ => .tail _
  | case5 _ _ _ _ _ ih => exact fun e member => .tail _ (ih found e member)

theorem foreign (sound : b.Sound) (t : Token) : (b.foreign Builder.rules t).Sound := by
  cases t with
  | endTag name =>
    simp only [Builder.foreign]
    split
    · exact sound.leaveForeign.rules _
    · split
      · rename_i stack found
        exact sound.shrink rfl rfl (mem_of_foreignEnd found)
      · exact sound.rules _
      · exact sound
  | _ => grind [Builder.foreign]

theorem step (sound : b.Sound) (t : Token) : (b.step t).Sound := by
  rw [Builder.step]
  exact Step.sound_ite (sound.foreign t) (sound.rules t)

theorem treat (sound : b.Sound) (count : Nat) (t : Token) : (treat count b t).Sound := by
  induction count generalizing b with
  | zero => exact sound
  | succ count ih =>
    have stepped := sound.step t
    rw [Builder.treat]
    split
    · rename_i finished
      rwa [finished] at stepped
    · rename_i unfinished
      rw [unfinished] at stepped
      exact ih stepped

theorem feed (sound : b.Sound) (t : Token) : (b.feed t).Sound := by
  rw [Builder.feed]
  exact ite (sound.update ..) ((sound.update ..).treat _ t)

theorem feedAll (sound : b.Sound) (ts : List Token) : (b.feedAll ts).Sound := by
  induction ts generalizing b with
  | nil => exact sound
  | cons t ts ih => exact ih (sound.feed t)

theorem feedRaw (sound : b.Sound) (cs : List Char) : (b.feedRaw cs).1.Sound :=
  (sound.update ..).feedAll _

/-- The document is a forest at the end of any text. -/
theorem run (sound : b.Sound) (cs : List Char) : (b.run cs).Sound := by
  fun_induction Builder.run b cs with
  | case1 b cs next read =>
    have fed := sound.feedRaw cs
    rw [read] at fed
    exact fed.feed .eof
  | case2 b cs next c rest read tokens ih =>
    have fed := sound.feedRaw cs
    rw [read] at fed
    exact ih (fed.feedAll _)

end Builder.Sound
end DocAnswers.Html.Tree
