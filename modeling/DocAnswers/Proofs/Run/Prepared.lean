import DocAnswers.Run

/-! What becomes of the arguments of a run before anything is printed. Either they do not lead to
sources of known languages, or one of the sources cannot be read, or all that the report is made of
is there. -/
namespace DocAnswers.Run
open FileTree

/-- The paths that the arguments of a run stand for. -/
def expanded (o : Options) (w : Workplace) : Except Failure (List Path) :=
  (Sources.expand w (if o.paths.isEmpty then ["."] else o.paths)).run.value

/-- The arguments stand for no list of paths, or for one with a path of no known language. -/
def Unrecognised (o : Options) (w : Workplace) : Prop :=
  (∃ e, expanded o w = .error e) ∨
    ∃ files, expanded o w = .ok files ∧ ∃ p ∈ files, Language.ofPath? p = none

/-- Some path that the arguments stand for leads to no file that can be read. -/
def Unreadable (o : Options) (w : Workplace) : Prop :=
  ∃ files, expanded o w = .ok files ∧ ∃ p ∈ files, ∃ e, bytes w p = .error e

/-- A source with its language and its bytes. -/
structure Source extends Input where
  content : List UInt8

namespace Source

def text (source : Source) : String := String.ofList (Text.Utf8.decode source.content)

/-- The documented procedures in the lines of a source. -/
def procedures (conv : Comment.Convention) (source : Source) : Comment.Procedures :=
  .ofLines conv (Text.lines source.text)

end Source

/-- The sources that the arguments stand for, in their order and with all that a run reads of them.
-/
structure Prepared (o : Options) (w : Workplace) (sources : List Source) : Prop where
  expanded : expanded o w = .ok (sources.map (·.path))
  known : ∀ source ∈ sources, Language.ofPath? source.path = some source.language
  readable : ∀ source ∈ sources, bytes w source.path = .ok source.content

variable {o : Options} {w : Workplace} {sources : List Source}

theorem exists_source {p : Path} (known : Language.ofPath? p ≠ none)
    (readable : ∀ e, bytes w p ≠ .error e) :
    ∃ source : Source, source.path = p ∧ Language.ofPath? p = some source.language ∧
      bytes w p = .ok source.content := by
  obtain ⟨language, is⟩ := Option.ne_none_iff_exists'.mp known
  cases read : bytes w p with
  | error e => exact absurd read (readable e)
  | ok content => exact ⟨⟨⟨p, language⟩, content⟩, rfl, is, rfl⟩

theorem exists_sources (files : List Path) (known : ∀ p ∈ files, Language.ofPath? p ≠ none)
    (readable : ∀ p ∈ files, ∀ e, bytes w p ≠ .error e) :
    ∃ sources : List Source, sources.map (·.path) = files ∧
      ∀ source ∈ sources, Language.ofPath? source.path = some source.language ∧
        bytes w source.path = .ok source.content := by
  induction files with
  | nil => exact ⟨[], rfl, by simp⟩
  | cons p files ih =>
    obtain ⟨source, rfl, is, content⟩ :=
      exists_source (known p List.mem_cons_self) (readable p List.mem_cons_self)
    obtain ⟨sources, rfl, each⟩ := ih (fun q member => known q (.tail _ member))
      (fun q member => readable q (.tail _ member))
    exact ⟨source :: sources, rfl, List.forall_mem_cons.mpr ⟨⟨is, content⟩, each⟩⟩

/-- Where nothing is in the way, everything is there. -/
theorem exists_prepared (recognised : ¬Unrecognised o w) (readable : ¬Unreadable o w) :
    ∃ sources, Prepared o w sources := by
  cases found : expanded o w with
  | error e => exact absurd (.inl ⟨e, found⟩) recognised
  | ok files =>
    have known : ∀ p ∈ files, Language.ofPath? p ≠ none := fun p member unknown =>
      recognised (.inr ⟨files, found, p, member, unknown⟩)
    have content : ∀ p ∈ files, ∀ e, bytes w p ≠ .error e := fun p member e failed =>
      readable ⟨files, found, p, member, e, failed⟩
    obtain ⟨sources, rfl, each⟩ := exists_sources files known content
    exact ⟨sources, found, fun source member => (each source member).1,
      fun source member => (each source member).2⟩

theorem Prepared.not_unrecognised (prepared : Prepared o w sources) : ¬Unrecognised o w := by
  rintro (⟨e, failed⟩ | ⟨files, found, p, member, unknown⟩)
  · exact absurd (prepared.expanded.symm.trans failed) (by simp)
  · cases prepared.expanded.symm.trans found
    obtain ⟨source, present, rfl⟩ := List.mem_map.mp member
    exact absurd ((prepared.known source present).symm.trans unknown) (by simp)

theorem Prepared.not_unreadable (prepared : Prepared o w sources) : ¬Unreadable o w := by
  rintro ⟨files, found, p, member, e, failed⟩
  cases prepared.expanded.symm.trans found
  obtain ⟨source, present, rfl⟩ := List.mem_map.mp member
  exact absurd ((prepared.readable source present).symm.trans failed) (by simp)

theorem exists_prepared_iff :
    (∃ sources, Prepared o w sources) ↔ ¬Unrecognised o w ∧ ¬Unreadable o w := by
  constructor
  · rintro ⟨sources, prepared⟩
    exact ⟨prepared.not_unrecognised, prepared.not_unreadable⟩
  · rintro ⟨recognised, readable⟩
    exact exists_prepared recognised readable

end DocAnswers.Run
