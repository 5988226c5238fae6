import DocAnswers.Program
import Mathlib.Data.List.Forall2

/-! Filters that differ by how talkative their directives are. Which directive decides about an event
does not depend on the verbosities, so that raising them only adds to what is shown. -/
namespace DocAnswers.Log

namespace Directive

/-- The same directive with a verbosity that is no lower. -/
structure Laxer (d d' : Directive) : Prop where
  verbosity : d.verbosity ≤ d'.verbosity
  same : d' = { d with verbosity := d'.verbosity }

namespace Laxer
variable {d d' b b' : Directive}

theorem refl (d : Directive) : Laxer d d := ⟨Nat.le_refl _, rfl⟩

theorem decides (laxer : Laxer d d') (e : Event) :
    (d'.isStatic && d'.applies e) = (d.isStatic && d.applies e) := by
  rw [laxer.same]
  rfl

theorem yields (laxer : Laxer d d') (better : Laxer b b') : d'.yields b' = d.yields b := by
  rw [laxer.same, better.same]
  rfl

end Laxer
end Directive

namespace Filter
open Directive

/-- The same filter with verbosities that are no lower. -/
def Laxer (f f' : Filter) : Prop := List.Forall₂ Directive.Laxer f.directives f'.directives

theorem mostSpecific_laxer {ds ds' : List Directive} (laxer : List.Forall₂ Directive.Laxer ds ds') :
    Option.Rel Directive.Laxer (mostSpecific ds) (mostSpecific ds') := by
  induction laxer with
  | nil => exact .none
  | @cons d d' ds ds' first rest ih =>
    rw [mostSpecific, mostSpecific]
    generalize mostSpecific ds = best, mostSpecific ds' = best' at ih
    cases ih with
    | none => exact .some first
    | some better =>
      simp only [first.yields better]
      split
      · exact .some better
      · exact .some first

/-- The directives of a filter that have a say about an event. -/
def about (f : Filter) (e : Event) : List Directive :=
  f.directives.filter fun d => d.isStatic && d.applies e

theorem shows_iff (f : Filter) (e : Event) :
    f.shows e = true ↔ ∃ d, mostSpecific (f.about e) = some d ∧ e.level.rank ≤ d.verbosity := by
  rw [shows, about]
  cases mostSpecific (f.directives.filter fun d => d.isStatic && d.applies e) <;> simp

theorem Laxer.about {f f' : Filter} (laxer : f.Laxer f') (e : Event) :
    List.Forall₂ Directive.Laxer (f.about e) (f'.about e) :=
  List.rel_filter (fun _ _ l => Bool.eq_iff_iff.mp (l.decides e).symm) laxer

/-- What a filter shows is shown by every laxer one. -/
theorem Laxer.shows {f f' : Filter} (laxer : f.Laxer f') {e : Event} (shown : f.shows e = true) :
    f'.shows e = true := by
  obtain ⟨d, decides, loud⟩ := (f.shows_iff e).mp shown
  have best := mostSpecific_laxer (laxer.about e)
  rw [decides] at best
  generalize decides' : mostSpecific (f'.about e) = best' at best
  cases best with
  | some louder => exact (f'.shows_iff e).mpr ⟨_, decides', Nat.le_trans loud louder.verbosity⟩

/-- The directives of the filter for a level. -/
def ofVerbosity (v : Verbosity) : Filter :=
  ⟨[{ verbosity := v }, { verbosity := 2, target := some "ureq" },
    { verbosity := 2, target := some "rustls" }]⟩

theorem read_ofLevel {level : String} {v : Verbosity} (named : (level, v) ∈ Verbosity.names) :
    read (ofLevel level) = ([], ofVerbosity v) := by
  have all : ∀ named ∈ Verbosity.names, read (ofLevel named.1) = ([], ofVerbosity named.2) := by
    decide +kernel
  exact all (level, v) named

theorem ofVerbosity_laxer {v v' : Verbosity} (le : v ≤ v') :
    (ofVerbosity v).Laxer (ofVerbosity v') :=
  .cons ⟨le, rfl⟩ (.cons (.refl _) (.cons (.refl _) .nil))

end Filter
end DocAnswers.Log

namespace DocAnswers.Program
open Log

/-- The lines of the log that a filter lets through. -/
def logLines (f : Filter) (effects : List Effect) : List String :=
  ((Effect.events effects).filter f.shows).map (·.line)

theorem logText_eq_join (f : Filter) (effects : List Effect) :
    logText f effects = String.join (logLines f effects) := rfl

/-- A stricter filter leaves out lines and does no more. -/
theorem logLines_sublist {f f' : Filter} (laxer : f.Laxer f') (effects : List Effect) :
    (logLines f effects).Sublist (logLines f' effects) :=
  (List.monotone_filter_right _ fun _ shown => laxer.shows shown).map _

end DocAnswers.Program
