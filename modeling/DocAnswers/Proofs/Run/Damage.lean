import DocAnswers.Proofs.Run.Stages
import DocAnswers.Proofs.Text.ByteLines

/-! What a run reads of a source that is not text throughout. -/
namespace DocAnswers.Run
open FileTree Text

variable {w : Workplace} {p : Path} {content : List UInt8}

theorem readText_of_bytes (readable : bytes w p = .ok content) :
    (readText w p).run.value = .ok (String.ofList (Utf8.decode content)) :=
  readText_value ⟨⟨p, .c⟩, content⟩ readable

theorem lines_decode (content : List UInt8) :
    Text.lines (String.ofList (Utf8.decode content)) =
      (Utf8.lineList content).map fun line => String.ofList (Utf8.decode line) := by
  rw [Text.lines, String.toList_ofList, Utf8.lineList_decode, List.map_map]
  rfl

/-- A source is read by the rule for ill-formed bytes, and if it has none its text has just its bytes.
The lines of the text are the lines of the bytes, each read by itself. So a source that differs from it
within one line has the same other lines, whatever the bytes there are. -/
theorem readText_damages_one_line (readable : bytes w p = .ok content) :
    ∃ text, (readText w p).run.value = .ok text ∧
      Utf8.Decodes content text.toList ∧
      (content.toByteArray.IsValidUTF8 → text.toByteArray = content.toByteArray) ∧
      Text.lines text = (Utf8.lineList content).map (fun line => String.ofList (Utf8.decode line)) ∧
      ∀ w' p' front line line' back, content = front ++ line ++ back →
        bytes w' p' = .ok (front ++ line' ++ back) → 0x0A ∉ line → 0x0A ∉ line' →
        ∃ text', (readText w' p').run.value = .ok text' ∧
          ∀ i, i ≠ front.count 0x0A → (Text.lines text')[i]? = (Text.lines text)[i]? := by
  refine ⟨_, readText_of_bytes readable, ?_, fun valid => ?_, lines_decode content, ?_⟩
  · rw [String.toList_ofList]
    exact Utf8.decodes_decode content
  · rw [String.toByteArray_ofList]
    exact congrArg List.toByteArray (Utf8.encode_decode ((Utf8.isValid_iff _).mpr valid))
  · rintro w' p' front line line' back rfl readable' whole whole'
    refine ⟨_, readText_of_bytes readable', fun i elsewhere => ?_⟩
    rw [lines_decode, lines_decode, List.getElem?_map, List.getElem?_map, Utf8.lineList, Utf8.lineList,
      getElem?_linesAt _ _ front back whole' whole elsewhere]

/-- A comment with a letter in Latin-1, which breaks off before the end of its line, and with the same
letter in UTF-8. -/
theorem readText_damages_one_line_latin :
    let front := " * A caf".toUTF8.toList
    let back := "\r\nint f()\n".toUTF8.toList
    let folder := FileTree.folder true [("a.c", .file (some (front ++ [0xE9] ++ back))),
      ("b.c", .file (some (front ++ [0xC3, 0xA9] ++ back)))]
    let w : Workplace := ⟨⟨folder, []⟩, none⟩
    ∃ damaged whole, (readText w ⟨"a.c"⟩).run.value = .ok damaged ∧
      (readText w ⟨"b.c"⟩).run.value = .ok whole ∧
      Text.lines damaged = [" * A caf\ufffd", "int f()"] ∧
      (Text.lines whole)[1]? = (Text.lines damaged)[1]? := by
  intro front back folder w
  have readable : bytes w ⟨"a.c"⟩ = .ok (front ++ [0xE9] ++ back) := by decide +kernel
  have readable' : bytes w ⟨"b.c"⟩ = .ok (front ++ [0xC3, 0xA9] ++ back) := by decide +kernel
  obtain ⟨damaged, read, -, -, lines, others⟩ := readText_damages_one_line readable
  obtain ⟨whole, read', same⟩ := others w ⟨"b.c"⟩ front [0xE9] [0xC3, 0xA9] back rfl readable'
    (by decide) (by decide)
  refine ⟨damaged, whole, read, read', lines.trans ?_, same 1 (by decide +kernel)⟩
  decide +kernel

end DocAnswers.Run
