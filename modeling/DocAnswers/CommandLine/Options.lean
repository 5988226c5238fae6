import DocAnswers.Comment.Scan
import DocAnswers.Lookup.Search

/-! What a run is asked to do. -/
namespace DocAnswers

/-- How the report is written. -/
inductive Format where
  | text
  | json
deriving DecidableEq, Repr

structure Options where
  /-- Files, folders and patterns. -/
  paths : List String := []
  /-- The name of the program that is built. -/
  program : Option String := none
  compiler : String := "cc"
  /-- Whether there is a program for each source. -/
  separate : Bool := false
  build : Bool := true
  lookup : Bool := true
  engine : Engine := {}
  /-- How many seconds a page may take. -/
  timeout : Nat := 10
  convention : Comment.Convention := {}
  format : Format := .text
  logLevel : String := "info"
deriving DecidableEq, Repr

end DocAnswers
