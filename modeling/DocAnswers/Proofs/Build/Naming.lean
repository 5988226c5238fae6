import DocAnswers.Proofs.Build.Targets

/-! What the files made of a source are called. The object has the text of the source with another
extension and the program has it without one, whatever else there is in the text. Only where nothing
but a dot stands before the extension the text is cut down to `..`, which names the folder above and
is left as it is. -/
namespace DocAnswers.Build
open DocAnswers.Path Attempt Text.Utf8

/-- Whether the last segment of a text is a single dot. -/
def EndsInDot (text : String) : Prop := (segments (ofText text).bytes).getLast? = some [dot]

instance (text : String) : Decidable (EndsInDot text) :=
  inferInstanceAs (Decidable (_ = _))

namespace Toolchain
variable {exec : Executor} {count : Nat}

/-- Where its two commands succeed, a source is compiled and its object is linked. -/
theorem make_run (t : Toolchain) (source : Path)
    (compiled : exec count (t.compiler :: compileArguments source) = .ok ())
    (linked : exec (count + 1) (t.compiler :: linkArguments (objectPath source)) = .ok ()) :
    Effect.commands (t.make exec count source).run.effects =
        [t.compiler :: compileArguments source, t.compiler :: linkArguments (objectPath source)] ∧
      (t.make exec count source).run.value = .ok (programPath (objectPath source)) := by
  have first : (t.run exec count (compileArguments source)).run.value = .ok () := compiled
  have second : (t.run exec (count + 1) (linkArguments (objectPath source))).run.value = .ok () :=
    linked
  simp only [make, compile, link, bind_assoc, pure_bind]
  rw [bind_ok first, bind_ok second]
  exact ⟨rfl, rfl⟩

end Toolchain

section Stem
variable {q : String} (some : q ≠ "") (unclosed : q.toList.getLast? ≠ .some '/')
include some unclosed

/-- A text with the extension of a source is a source, with the last segment as its stem. -/
theorem exists_parts_append : ∃ front stem, (ofText q).bytes = front ++ stem ∧
    Parts (ofText (q ++ ".c")) front stem [] ∧ (EndsInDot q ↔ stem = [dot]) := by
  obtain ⟨front, stem, spelled, isFront, single⟩ := exists_front (ofText q).bytes
  have nonempty : stem ≠ [] := by
    rintro rfl
    rw [List.append_nil] at spelled
    rcases isFront with rfl | ⟨folder, rfl⟩
    · exact some (String.toList_eq_nil_iff.mp (encode_injective spelled))
    · have closed := (congrArg List.getLast? spelled).trans List.getLast?_concat
      exact unclosed ((getLast?_encode (by decide) q.toList).mp closed)
  refine ⟨front, stem, spelled, ⟨?_, isFront, nonempty, single, .nothing⟩, ?_⟩
  · rw [bytes_append, spelled, List.append_assoc, List.reverse_nil, List.append_nil]
    rfl
  · rw [EndsInDot, spelled, getLast?_segments isFront single, Option.some.injEq]

/-- An extension of one byte behind a text is replaced, unless that would leave a dot alone. -/
theorem withExtension_append {p : Path} {x : UInt8} (letter : x ≠ slash ∧ x ≠ dot)
    (behind : p.bytes = (ofText q).bytes ++ [dot, x]) (extension : List UInt8) :
    (p.withExtension extension).bytes =
      (ofText q).bytes ++ if EndsInDot q then [dot] else suffix extension := by
  obtain ⟨front, stem, spelled, parts, ends⟩ := exists_parts_append some unclosed
  have spelled' : p.bytes = front ++ (stem ++ [dot, x]) ++ ([] : List UInt8).reverse := by
    simp [behind, spelled]
  have isName := parts.isName letter
  have undotted : dot ∉ [x] := by simpa using letter.2.symm
  have extended := extension?_spelled spelled' parts.isFront parts.some isName .nothing undotted
  rw [withExtension_spelled spelled' extended parts.isFront parts.some isName .nothing letter.2]
  by_cases bare : stem = [dot]
  · simp [ends.mpr bare, bare, spelled]
  · simp [mt ends.mp bare, bare, spelled]

theorem objectPath_append :
    objectPath (ofText (q ++ ".c")) = ofText (if EndsInDot q then q ++ "." else q ++ ".o") := by
  apply Path.ext
  rw [objectPath, withExtension_append some unclosed (by decide) (bytes_append q ".c")]
  split
  · exact (bytes_append q ".").symm
  · exact (bytes_append q ".o").symm

theorem programPath_append :
    programPath (ofText (q ++ ".o")) = ofText (if EndsInDot q then q ++ "." else q) := by
  apply Path.ext
  rw [programPath, withExtension_append some unclosed (by decide) (bytes_append q ".o")]
  split
  · exact (bytes_append q ".").symm
  · exact List.append_nil _

/-- The program made of a source is called like it without its extension. -/
theorem programPath_objectPath_append :
    programPath (objectPath (ofText (q ++ ".c"))) =
      ofText (if EndsInDot q then q ++ "." else q) := by
  obtain ⟨front, stem, spelled, parts, ends⟩ := exists_parts_append some unclosed
  apply Path.ext
  rw [parts.programPath_bytes]
  by_cases bare : stem = [dot]
  · rw [if_pos bare, if_pos (ends.mpr bare), bytes_append, spelled, bare]
    simp
    rfl
  · rw [if_neg bare, if_neg (mt ends.mp bare), spelled]

/-- Making a program of a source replaces the extension in its text, and nothing else, if and only if
there is more than a dot before the extension in the last segment. Otherwise both the object and the
program are called after the folder above. -/
theorem make_replaces_extension_iff :
    (objectPath (ofText (q ++ ".c")) = ofText (q ++ ".o") ↔ ¬EndsInDot q) ∧
    (programPath (ofText (q ++ ".o")) = ofText q ↔ ¬EndsInDot q) ∧
    ∀ (t : Toolchain) (exec : Executor), (∀ n words, exec n words = .ok ()) → ∀ count,
      let made := (t.make exec count (ofText (q ++ ".c"))).run
      (Effect.commands made.effects =
          [[t.compiler, "-c", q ++ ".c", "-o", q ++ ".o"], [t.compiler, q ++ ".o", "-o", q]] ∧
        made.value = .ok (ofText q) ↔ ¬EndsInDot q) ∧
      (EndsInDot q →
        Effect.commands made.effects =
            [[t.compiler, "-c", q ++ ".c", "-o", q ++ "."], [t.compiler, q ++ ".", "-o", q ++ "."]] ∧
          made.value = .ok (ofText (q ++ "."))) := by
  have object := objectPath_append some unclosed
  have program := programPath_append some unclosed
  have made := programPath_objectPath_append some unclosed
  have longer : q ++ "." ≠ q := by simp
  have shorter : q ++ "." ≠ q ++ ".o" := by simp
  by_cases ends : EndsInDot q
  · rw [if_pos ends] at object program made
    refine ⟨by simp [object, ends, shorter], by simp [program, ends, longer], ?_⟩
    intro t exec succeeds count
    obtain ⟨commands, value⟩ :=
      t.make_run (ofText (q ++ ".c")) (succeeds count _) (succeeds (count + 1) _)
    rw [made] at value
    rw [object] at made
    simp only [Toolchain.compileArguments, Toolchain.linkArguments, object, made, text_ofText]
      at commands
    refine ⟨⟨fun replaced => ?_, absurd ends⟩, fun _ => ⟨commands, value⟩⟩
    have same := ofText_inj.mp (Except.ok.inj (value.symm.trans replaced.2))
    exact absurd same longer
  · rw [if_neg ends] at object program made
    refine ⟨iff_of_true object ends, iff_of_true program ends, ?_⟩
    intro t exec succeeds count
    obtain ⟨commands, value⟩ :=
      t.make_run (ofText (q ++ ".c")) (succeeds count _) (succeeds (count + 1) _)
    rw [made] at value
    simp only [Toolchain.compileArguments, Toolchain.linkArguments, object, program, text_ofText]
      at commands
    exact ⟨iff_of_true ⟨commands, value⟩ ends, fun is => absurd is ends⟩

end Stem

/-- Dots and slashes in all places, and a stem of two dots. -/
theorem make_replaces_extension_iff_dots :
    let q := "./lib.c/..//.."
    let exec : Executor := fun _ _ => .ok ()
    let made := (Toolchain.make ⟨"gcc"⟩ exec 0 (ofText (q ++ ".c"))).run
    q ≠ "" ∧ q.toList.getLast? ≠ some '/' ∧ objectPath (ofText (q ++ ".c")) = ⟨"./lib.c/..//...o"⟩ ∧
      programPath (ofText (q ++ ".o")) = ofText q ∧ made.value = .ok (ofText q) := by
  intro q exec made
  have some : q ≠ "" := by decide
  have unclosed : q.toList.getLast? ≠ .some '/' := by decide
  have whole : ¬EndsInDot q := by decide
  obtain ⟨object, program, rule⟩ := make_replaces_extension_iff some unclosed
  exact ⟨some, unclosed, object.mpr whole, program.mpr whole,
    ((rule ⟨"gcc"⟩ exec (fun _ _ => rfl) 0).1.mpr whole).2⟩

/-- The object of `..c` is the folder above, and so is the program of `..o`. -/
theorem make_keeps_single_dot :
    let q := "."
    q ≠ "" ∧ q.toList.getLast? ≠ some '/' ∧
      objectPath (ofText (q ++ ".c")) = ⟨".."⟩ ∧ objectPath (ofText (q ++ ".c")) ≠ ofText (q ++ ".o") ∧
      programPath (ofText (q ++ ".o")) = ⟨".."⟩ ∧ programPath (ofText (q ++ ".o")) ≠ ofText q := by
  decide

end DocAnswers.Build
