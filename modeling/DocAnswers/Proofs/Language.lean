import DocAnswers.Proofs.Path.Extension
import DocAnswers.Sources

/-! Sources are recognised by their names. The languages and the search for sources go by the same
table of extensions, and so they recognise the same paths. -/
namespace DocAnswers.Language
open DocAnswers.Path Sources

theorem isSome_ofPath? (p : Path) : (ofPath? p).isSome = hasKnownExtension p := by
  rw [ofPath?, hasKnownExtension]
  cases p.extension? with
  | none => rfl
  | some e =>
    rw [Option.bind_some, ofExtension?, Bool.eq_iff_iff, List.lookup_isSome_iff, List.any_eq_true]
    simp only [BEq.comm (a := e)]

theorem hasKnownExtension_iff (p : Path) :
    hasKnownExtension p = true ↔ p.extension? = some ("c" : List UInt8) := by
  rw [hasKnownExtension]
  cases p.extension? with
  | none => simp
  | some e => simp [extensions, eq_comm (b := e)]

theorem extension?_of_ofPath? {p : Path} (known : ofPath? p ≠ none) :
    p.extension? = some ("c" : List UInt8) := by
  rw [← hasKnownExtension_iff, ← isSome_ofPath?]
  exact Option.isSome_iff_ne_none.mpr known

/-- Known are the names that end in `.c` and do not begin with it. -/
theorem hasKnownExtension_iff_segment (p : Path) :
    hasKnownExtension p = true ↔ ∃ stem, stem ≠ [] ∧
      (segments (toNameEnd p.bytes)).getLast? = some (stem ++ (".c" : List UInt8)) := by
  rw [hasKnownExtension_iff, extension?_eq_some_iff p (by decide)]
  exact and_iff_right (by decide)

end DocAnswers.Language
