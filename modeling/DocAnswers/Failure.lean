import DocAnswers.FileTree.Pattern
import DocAnswers.Path.Basic

/-! Why a run fails, and how it says so: one message, and what caused it. -/
namespace DocAnswers

inductive Failure where
  | unknownLanguage (source : Path)
  | badPattern (pattern : String) (error : FileTree.PatternError)
  | unlistableFolder (folder : Path) (reason : String)
  | unreadableSource (source : Path) (reason : String)
  /-- A command could not be started. -/
  | notStarted (program : String) (reason : String)
  /-- A command ended with another exit status than zero. -/
  | exited (words : List String) (status : Nat)
  /-- A command was turned away by whoever was asked to run it. -/
  | refused (message : String)
deriving DecidableEq, Repr

namespace Failure

def message : Failure → String
  | unknownLanguage source => "unknown implementation language for " ++ source.text
  | badPattern pattern _ => "invalid glob pattern: " ++ pattern
  | unlistableFolder folder _ => "failed to read directory: " ++ folder.text
  | unreadableSource source _ => "failed to read " ++ source.text
  | notStarted program _ => "failed to run " ++ program
  | exited words status => " ".intercalate words ++ " exited with exit status: " ++ toString status
  | refused message => message

def causes : Failure → List String
  | badPattern _ error => [error.message]
  | unlistableFolder _ reason => [reason]
  | unreadableSource _ reason => [reason]
  | notStarted _ reason => [reason]
  | _ => []

/-- What a failed run writes about its failure. -/
def report (f : Failure) : String :=
  "Error: " ++ f.message ++ "\n" ++
    if f.causes.isEmpty then ""
    else "\nCaused by:\n" ++ String.join (f.causes.map fun cause => "    " ++ cause ++ "\n")

end Failure
end DocAnswers
