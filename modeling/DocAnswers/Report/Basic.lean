import DocAnswers.Report.Json
import DocAnswers.Text.Lines

/-! The report of a run: its documented procedures with the answers found for them, as text grouped by
file or as JSON. -/
namespace DocAnswers

structure Entry where
  file : String
  language : String
  procedure : String
  comment : String
  /-- Absent where no answer was looked for. -/
  answer : Option String := none
deriving DecidableEq, Repr

structure Report where
  entries : List Entry := []
deriving DecidableEq, Repr

namespace Report

def push (r : Report) (e : Entry) : Report := ⟨r.entries ++ [e]⟩

/-- The heading of a file, behind an empty line unless it is the first. -/
def heading (previous : Option String) (e : Entry) : String :=
  if previous = some e.file then ""
  else (if previous.isSome then "\n" else "") ++ e.file ++ " (" ++ e.language ++ ")\n"

def answerText : Option String → String
  | none => ""
  | some answer =>
    "    answer:\n" ++
      String.join ((Text.lines answer).map fun line => "      " ++ line ++ "\n")

def entryText (previous : Option String) (e : Entry) : String :=
  heading previous e ++ "  " ++ e.procedure ++ "\n" ++ "    doc: " ++ e.comment ++ "\n" ++
    answerText e.answer

def textAfter : Option String → List Entry → String
  | _, [] => ""
  | previous, e :: es => entryText previous e ++ textAfter (some e.file) es

/-- The procedures under a heading for each file, with the lines of their answers indented. -/
def text (r : Report) : String := textAfter none r.entries

def entryJson (e : Entry) : Json :=
  .object ([("file", .string e.file), ("language", .string e.language),
      ("procedure", .string e.procedure), ("comment", .string e.comment)] ++
    (e.answer.map fun a => ("answer", Json.string a)).toList)

def toJson (r : Report) : Json := .object [("procedures", .array (r.entries.map entryJson))]

def json (r : Report) : String := r.toJson.pretty ++ "\n"

end Report
end DocAnswers
