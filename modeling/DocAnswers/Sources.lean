import DocAnswers.Effect
import DocAnswers.Failure
import DocAnswers.FileTree.Glob
import DocAnswers.Language

/-! The sources that a list of arguments stands for. An argument that names a file stands for it, one
that names a folder for the sources directly in it, and any other is a pattern. The sources come in
the order of their paths, each path once and spelled as it was first reached. -/
namespace DocAnswers

/-- A computation that acts on the outside and may fail. -/
abbrev Attempt (α : Type) := ExceptT Failure Traced α

namespace Sources
open FileTree

inductive Argument where
  | file (path : Path)
  | folder (path : Path)
  | pattern (text : String)
deriving DecidableEq, Repr

def Argument.ofText (w : Workplace) (arg : String) : Argument :=
  if w.isFile ⟨arg⟩ then .file ⟨arg⟩
  else if w.isFolder ⟨arg⟩ then .folder ⟨arg⟩
  else .pattern arg

def hasKnownExtension (p : Path) : Bool :=
  match p.extension? with
  | none => false
  | some e => Language.extensions.any (·.1 == e)

/-- Puts a path into an ascending list, unless an equal path is there already. -/
def insert (p : Path) : List Path → List Path
  | [] => [p]
  | q :: qs =>
    match p.compare q with
    | .lt => p :: q :: qs
    | .eq => q :: qs
    | .gt => q :: insert p qs

def insertAll (new : List Path) (known : List Path) : List Path :=
  new.foldl (fun known p => insert p known) known

/-- The sources directly in a folder. -/
def inFolder (w : Workplace) (folder : Path) : Except Failure (List Path) :=
  match (w.find? folder).bind (·.tree.list?) with
  | none => .error (.unlistableFolder folder "Permission denied (os error 13)")
  | some entries =>
    .ok ((entries.map fun entry => folder.join entry.1).filter fun p =>
      w.isFile p && hasKnownExtension p)

/-- The files that a pattern stands for. -/
def matching (w : Workplace) (pattern : String) : Except Failure (List Path) :=
  match Glob.Query.read pattern.toList with
  | .error e => .error (.badPattern pattern e)
  | .ok q => .ok ((q.run w).filter w.isFile)

def noMatch (pattern : String) : Log.Event :=
  { level := .warn, topic := .sources, message := "no files matched",
    fields := [("pattern", .quoted pattern)] }

/-- What one argument stands for. -/
def ofArgument (w : Workplace) (arg : String) : Attempt (List Path) :=
  match Argument.ofText w arg with
  | .file p => return [p]
  | .folder p => liftExcept (inFolder w p)
  | .pattern text => do
    let found ← liftExcept (matching w text)
    if found.isEmpty then ExceptT.lift (Traced.note (noMatch text))
    return found
where
  liftExcept {α : Type} (e : Except Failure α) : Attempt α := ExceptT.mk (pure e)

def expandFrom (w : Workplace) (known : List Path) : List String → Attempt (List Path)
  | [] => return known
  | arg :: args => do
    let found ← ofArgument w arg
    expandFrom w (insertAll found known) args

/-- The sources that some arguments stand for. -/
def expand (w : Workplace) (args : List String) : Attempt (List Path) := expandFrom w [] args

end Sources
end DocAnswers
