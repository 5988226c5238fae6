import DocAnswers.Text.Blank
import DocAnswers.Text.WordChar

/-! Procedure signatures: a return type, white space, a name and a parenthesised parameter list, all
from the start of the line. The list may hold anything but line feeds and ends at any closing
parenthesis; what follows it is free. -/
namespace DocAnswers.Comment
open Text

/-- Whether some closing parenthesis comes before the first line feed. -/
def closesOnLine (cs : List Char) : Bool := (cs.takeWhile (· ≠ '\n')).contains ')'

/-- The characters after a non-empty run of a class, or nothing where no run starts. -/
def skipRun (p : Char → Bool) : List Char → Option (List Char)
  | [] => none
  | c :: cs => if p c then some (cs.dropWhile p) else none

/-- Word characters and white space have nothing in common and neither class has the opening
parenthesis, so taking each run as long as possible loses no signature. -/
def isSignature (line : List Char) : Bool :=
  match skipRun isWordChar line with
  | none => false
  | some afterType =>
    match skipRun isBlank afterType with
    | none => false
    | some afterSpace =>
      match skipRun isWordChar afterSpace with
      | some ('(' :: list) => closesOnLine list
      | _ => false

end DocAnswers.Comment
