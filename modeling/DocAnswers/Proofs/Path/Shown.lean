import DocAnswers.Proofs.Path.Order
import DocAnswers.Proofs.Path.Spelling
import DocAnswers.Proofs.Text.Ascii

/-! Paths and the texts by which they are shown. The text of a path tells the path only if it is text
itself: paths that are not text may be shown alike. -/
namespace DocAnswers.Path
open Text.Utf8

/-- Whether a path is text. -/
def IsText (p : Path) : Prop := isValid p.bytes = true

instance (p : Path) : Decidable p.IsText := inferInstanceAs (Decidable (_ = _))

/-- The path that a text spells. -/
def ofText (text : String) : Path := ⟨text⟩

/-- The path that is spelled by the text of a path. -/
def shown (p : Path) : Path := ofText p.text

theorem bytes_append (text more : String) :
    (ofText (text ++ more)).bytes = (ofText text).bytes ++ (ofText more).bytes := by
  simp only [ofText, String.toList_append, encode_append]

@[simp]
theorem text_ofText (text : String) : (ofText text).text = text := by
  rw [Path.text, ofText, decode_encode, String.ofList_toList]

@[simp]
theorem ofText_inj {text text' : String} : ofText text = ofText text' ↔ text = text' :=
  ⟨fun same => by simpa using congrArg Path.text same, congrArg ofText⟩

theorem isText_ofText (text : String) : (ofText text).IsText := isValid_encode text.toList

theorem text_shown (p : Path) : p.shown.text = p.text := text_ofText p.text

theorem bytes_shown (p : Path) : p.shown.bytes = mended p.bytes := by
  rw [shown, ofText, Path.text, String.toList_ofList, mended]

theorem shown_eq_iff (p : Path) : p.shown = p ↔ p.IsText := by
  rw [IsText, ← mended_eq_self_iff, ← bytes_shown]
  exact ⟨congrArg Path.bytes, Path.ext⟩

theorem shown_inj {p q : Path} : p.shown = q.shown ↔ p.text = q.text := ofText_inj

/-- Text is told by what is shown of it. -/
theorem IsText.text_inj {p q : Path} (isText : p.IsText) (isText' : q.IsText) :
    p.text = q.text ↔ p = q := by
  rw [← shown_inj, (shown_eq_iff p).mpr isText, (shown_eq_iff q).mpr isText']

/-- Different paths that are text have different texts. -/
theorem Distinct.texts_nodup {ps : List Path} (distinct : Distinct ps) (texts : ∀ p ∈ ps, p.IsText) :
    (ps.map (·.text)).Nodup := by
  apply List.pairwise_map.mpr
  apply distinct.imp_of_mem
  intro p q member member' differ same
  exact differ (congrArg components (((texts p member).text_inj (texts q member')).mp same))

theorem mended_front {front : List UInt8} (isFront : IsFront front) (rest : List UInt8) :
    mended (front ++ rest) = mended front ++ mended rest := by
  rcases isFront with rfl | ⟨folder, rfl⟩
  · rfl
  · have slashed : slash.toNat < 0x80 := by decide
    rw [mended_append_ascii slashed, List.append_assoc, List.singleton_append,
      mended_append_ascii slashed, List.append_assoc]
    rfl

theorem mended_eq_dot_iff (bs : List UInt8) : mended bs = [dot] ↔ bs = [dot] :=
  mended_eq_iff (List.forall_mem_singleton.mpr (by decide))

theorem IsFront.mended {front : List UInt8} (isFront : IsFront front) : IsFront (mended front) := by
  rcases isFront with rfl | ⟨folder, rfl⟩
  · exact .inl rfl
  · exact .inr ⟨_, mended_append_ascii (by decide) folder []⟩

theorem Trailing.ascii {junk : List UInt8} (trailing : Trailing junk) : ∀ b ∈ junk, b.toNat < 0x80 := by
  induction trailing with
  | nothing => simp
  | slash _ ih => exact List.forall_mem_cons.mpr ⟨by decide, ih⟩
  | here _ ih =>
    exact List.forall_mem_cons.mpr ⟨by decide, List.forall_mem_cons.mpr ⟨by decide, ih⟩⟩

end DocAnswers.Path
