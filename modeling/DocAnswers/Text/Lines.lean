import DocAnswers.Text.Blank

/-! The lines of a text. A line ends at a line feed, and one carriage return directly before that
line feed belongs to the line end. A last line that no line feed ends is kept as it stands, and a
text that ends in a line feed has no further empty line. -/
namespace DocAnswers.Text

section
variable {α : Type} [DecidableEq α] (feed ret : α)

/-- A line without the one carriage return that may stand at its end. -/
def dropReturn (line : List α) : List α :=
  if line.getLast? = some ret then line.dropLast else line

/-- Lines from the pieces between line feeds. -/
def linesOfPieces : List (List α) → List (List α)
  | [] => []
  | [last] => if last.isEmpty then [] else [last]
  | piece :: pieces => dropReturn ret piece :: linesOfPieces pieces

/-- The lines of a text in any letters, two of which are the line feed and the carriage return. -/
def linesAt (text : List α) : List (List α) := linesOfPieces ret (cut (· == feed) text)

end

def lineList (cs : List Char) : List (List Char) := linesAt '\n' '\r' cs

/-- The lines of a text, in order. -/
def lines (s : String) : List String := (lineList s.toList).map String.ofList

end DocAnswers.Text
