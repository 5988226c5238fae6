import DocAnswers.Proofs.Lookup.Tiers

/-! Code before prose. The kind of an answer is the first kind whose first element is not blank. So
code is preferred to prose as far as first elements go. A later block of code counts for nothing, and
where only a later one has text, inline code or prose may be chosen although there is code. -/
namespace DocAnswers.Answer
open Html Text

/-- The kind of the answer that a page gives. -/
def kind? (p : Page) : Option Kind := (extract? p).map (·.kind)

/-- Whether some element of a kind inside an answer is not blank. -/
def Has (answer : Located) (kind : Kind) : Prop :=
  ∃ node ∈ answer.descendants, kind.marks node.element = true ∧
    ∃ c ∈ node.text.toList, isBlank c = false

/-- Whether the first element of a kind inside an answer is not blank. -/
def Leads (answer : Located) (kind : Kind) : Prop :=
  ∃ node ∈ answer.first? kind.marks, ∃ c ∈ node.text.toList, isBlank c = false

/-- Whether the kind that is chosen is code where there is some, and a block rather than inline code. -/
structure PrefersCode (has : Kind → Prop) (chosen : Option Kind) : Prop where
  block : has .codeBlock → chosen = some .codeBlock
  inline : ¬has .codeBlock → has .inlineCode → chosen = some .inlineCode
  prose : chosen = some .prose → ¬has .codeBlock ∧ ¬has .inlineCode

/-- Prose is chosen for want of code only, if code is always chosen otherwise. -/
theorem PrefersCode.of_code {has : Kind → Prop} {chosen : Option Kind}
    (block : has .codeBlock → chosen = some .codeBlock)
    (inline : ¬has .codeBlock → has .inlineCode → chosen = some .inlineCode) :
    PrefersCode has chosen := by
  refine ⟨block, inline, ?_⟩
  rintro rfl
  have noBlock : ¬has .codeBlock := fun code => by simpa using block code
  exact ⟨noBlock, fun code => by simpa using inline noBlock code⟩

variable {p : Page} {answer : Located}

theorem has_iff (answer : Located) (kind : Kind) : Has answer kind ↔
    answer.descendants.any (fun node =>
      kind.marks node.element && node.text.toList.any (!isBlank ·)) = true := by
  simp [Has]

theorem leads_iff (answer : Located) (kind : Kind) :
    Leads answer kind ↔ ∃ text, Offers answer kind text := by
  constructor
  · rintro ⟨node, found, solid⟩
    exact ⟨_, node, found, solid, rfl⟩
  · rintro ⟨text, node, found, solid, -⟩
    exact ⟨node, found, solid⟩

theorem Leads.has {kind : Kind} (leads : Leads answer kind) : Has answer kind := by
  obtain ⟨node, found, solid⟩ := leads
  exact ⟨node, List.mem_of_find?_eq_some found, (Located.descendants_of_first?_some found).1, solid⟩

section First
variable (first : (p.select (.hasClass "answer")).head? = some answer)
include first

theorem kind?_eq_some_iff (kind : Kind) : kind? p = some kind ↔ ∃ better worse,
    [Kind.codeBlock, .inlineCode, .prose] = better ++ kind :: worse ∧ Leads answer kind ∧
      ∀ k ∈ better, ¬Leads answer k := by
  have told : kind? p = some kind ↔ ∃ text, extract? p = some ⟨kind, text⟩ := by
    rw [kind?, Option.map_eq_some_iff]
    constructor
    · rintro ⟨c, found, rfl⟩
      exact ⟨c.text, found⟩
    · rintro ⟨text, found⟩
      exact ⟨_, found, rfl⟩
  simp only [told, extract?_eq_some_iff first, leads_iff, not_exists]
  constructor
  · rintro ⟨text, better, worse, order, offers, none⟩
    exact ⟨better, worse, order, ⟨text, offers⟩, none⟩
  · rintro ⟨better, worse, order, ⟨text, offers⟩, none⟩
    exact ⟨text, better, worse, order, offers, none⟩

theorem leads_of_kind? {kind : Kind} (chosen : kind? p = some kind) : Leads answer kind := by
  obtain ⟨_, _, -, leads, -⟩ := (kind?_eq_some_iff first kind).mp chosen
  exact leads

theorem prefersCode_leads : PrefersCode (Leads answer) (kind? p) := by
  refine .of_code (fun block => ?_) (fun noBlock inline => ?_)
  · exact (kind?_eq_some_iff first _).mpr ⟨[], _, rfl, block, by simp⟩
  · exact (kind?_eq_some_iff first _).mpr ⟨[.codeBlock], _, rfl, inline, by simpa using noBlock⟩

/-- Code is preferred to prose with regard to what the first elements of the kinds have. With regard to
all elements it is preferred if and only if the first block of code is not blank where any is not, and
the first inline code where no block has text and some inline code has. -/
theorem kind?_prefers_leading_code :
    PrefersCode (Leads answer) (kind? p) ∧ (∀ kind, Leads answer kind → Has answer kind) ∧
    (PrefersCode (Has answer) (kind? p) ↔
      (Has answer .codeBlock → Leads answer .codeBlock) ∧
        (¬Has answer .codeBlock → Has answer .inlineCode → Leads answer .inlineCode)) := by
  have leading := prefersCode_leads first
  refine ⟨leading, fun _ => Leads.has, ?_⟩
  constructor
  · intro prefers
    exact ⟨fun has => leads_of_kind? first (prefers.block has),
      fun none has => leads_of_kind? first (prefers.inline none has)⟩
  · rintro ⟨block, inline⟩
    exact .of_code (fun has => leading.block (block has))
      fun none has => leading.inline (mt Leads.has none) (inline none has)

end First

/-- Prose, a block of code with text and one without. -/
theorem kind?_prefers_leading_code_blank :
    let p := Page.ofText "x"
      "<div class=answer><p class=post-text>use</p><pre>a</pre><pre> </pre></div>"
    ∃ answer, (p.select (.hasClass "answer")).head? = some answer ∧
      Leads answer .codeBlock ∧ Leads answer .prose ∧ kind? p = some .codeBlock ∧
      PrefersCode (Has answer) (kind? p) := by
  intro p
  have checked : (p.select (.hasClass "answer")).head?.any (fun answer =>
      decide (candidate? answer .codeBlock = some ⟨.codeBlock, "a"⟩ ∧
        candidate? answer .prose = some ⟨.prose, "use"⟩)) = true := by
    unfold p
    cbv
  obtain ⟨answer, first, holds⟩ := (Option.any_eq_true _ _).mp checked
  obtain ⟨block, prose⟩ := of_decide_eq_true holds
  have block : Leads answer .codeBlock := (leads_iff _ _).mpr ⟨_, (offers_iff _ _ _).mpr block⟩
  have prose : Leads answer .prose := (leads_iff _ _).mpr ⟨_, (offers_iff _ _ _).mpr prose⟩
  obtain ⟨leading, has, exactly⟩ := kind?_prefers_leading_code first
  refine ⟨answer, first, block, prose, leading.block block, exactly.mpr ⟨fun _ => block, ?_⟩⟩
  exact fun none => absurd (has _ block) none

/-- Prose is chosen although the second block of code is not blank. -/
theorem kind?_passes_over_later_code :
    let p := Page.ofText "x"
      "<div class=answer><pre> </pre><pre>x</pre><p class=post-text>y</p></div>"
    ∃ answer, (p.select (.hasClass "answer")).head? = some answer ∧ Has answer .codeBlock ∧
      kind? p = some .prose ∧ ¬PrefersCode (Has answer) (kind? p) := by
  intro p
  have checked : (p.select (.hasClass "answer")).head?.any (fun answer =>
      answer.descendants.any fun node =>
        Kind.codeBlock.marks node.element && node.text.toList.any (!isBlank ·)) = true := by
    unfold p
    cbv
  obtain ⟨answer, first, holds⟩ := (Option.any_eq_true _ _).mp checked
  have has : Has answer .codeBlock := (has_iff _ _).mpr holds
  have chosen : kind? p = some .prose := by
    unfold p
    cbv
  exact ⟨answer, first, has, chosen, fun prefers => (prefers.prose chosen).1 has⟩

end DocAnswers.Answer
