import DocAnswers.Comment.Procedures
import DocAnswers.Comment.Signature

/-! The documented procedures of a source, read line by line. A comment line starts with the
convention's mark, also where it looks like a signature as well; other lines are signatures or
noise. Comments gather until the next signature takes them, and a marker line among them leaves
that procedure out. -/
namespace DocAnswers.Comment
open Text

/-- How a source writes its documentation. -/
structure Convention where
  /-- What every body line of a doc comment starts with. -/
  mark : String := " * "
  /-- What follows the mark on a line that declares a procedure reviewed. -/
  reviewedToken : String := "@pbs: reviewed"
deriving DecidableEq, Repr

/-- The line that declares the next procedure reviewed. -/
def Convention.reviewedLine (conv : Convention) : String := conv.mark ++ conv.reviewedToken

/-- What a scan knows between two lines. -/
structure Scan where
  found : Procedures := []
  /-- The comments since the last signature, in order. -/
  comments : List (List Char) := []
  reviewed : Bool := false

namespace Scan

/-- A signature takes the comments gathered so far, and the marker is spent on it. -/
def signature (s : Scan) (line : String) : Scan :=
  { found :=
      if s.reviewed then s.found
      else s.found.insert ⟨line, String.ofList (join [' '] s.comments)⟩ }

def read (conv : Convention) (s : Scan) (line : String) : Scan :=
  let s := if line = conv.reviewedLine then { s with reviewed := true } else s
  match after? conv.mark.toList line.toList with
  | some body => { s with comments := s.comments ++ [trim body] }
  | none => if isSignature line.toList then s.signature line else s

end Scan

/-- The documented procedures of a list of lines. Comments after the last signature are dropped. -/
def Procedures.ofLines (conv : Convention) (lines : List String) : Procedures :=
  (lines.foldl (Scan.read conv) {}).found

end DocAnswers.Comment
