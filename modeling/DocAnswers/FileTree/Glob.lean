import DocAnswers.FileTree.Basic
import DocAnswers.FileTree.Pattern

/-! The paths in a file tree that a pattern stands for. A pattern is matched segment by segment from
the program's folder, or from the outermost one if it starts with a slash. A name that is no text is
never matched. A found path is spelled by the names on the way to it, without a leading `.` segment. -/
namespace DocAnswers.FileTree

/-- A place on the way, with the path by which it was reached. -/
structure Found where
  path : Path
  spot : Spot

namespace Found

/-- Whether the path is the bare folder of the program, which is not spelled out in what follows. -/
def isHere (f : Found) : Bool := f.path.components == [.here]

def extend (f : Found) (name : List UInt8) : Path := if f.isHere then ⟨name⟩ else f.path.join name

/-- The place that a segment without wildcards leads to. -/
def literal? (f : Found) (segment : List UInt8) : Option Found :=
  if segment.isEmpty && f.isHere then none
  else (f.spot.step? segment).map fun spot => ⟨f.extend segment, spot⟩

/-- The entry of a folder, as reached through it. -/
def entry (f : Found) (name : List UInt8) (tree : FileTree) : Found :=
  ⟨f.extend name, ⟨tree, f.spot.tree :: f.spot.around⟩⟩

end Found

/-- Entries in the order of their names. -/
def sorted (entries : List (List UInt8 × FileTree)) : List (List UInt8 × FileTree) :=
  entries.mergeSort fun a b => (Ord.compare a.1 b.1).isLE

/-- The listed entries of a place, in the order of their names. -/
def Found.entries (f : Found) : List (List UInt8 × Found) :=
  (sorted (f.spot.tree.list?.getD [])).map fun (name, tree) => (name, f.entry name tree)

mutual

/-- Everything below a place, each folder before its own entries. -/
def beneath (path : Path) (isHere : Bool) (around : List FileTree) : FileTree → List (List UInt8 × Found)
  | file _ => []
  | folder listable entries =>
    if listable then beneathAll path isHere (folder listable entries :: around) entries else []

/-- The entries of one folder and everything below them. -/
def beneathAll (path : Path) (isHere : Bool) (around : List FileTree) :
    List (List UInt8 × FileTree) → List (List UInt8 × Found)
  | [] => []
  | (name, tree) :: rest =>
    let inside := if isHere then ⟨name⟩ else path.join name
    (name, ⟨inside, tree, around⟩) :: beneath inside false around tree ++
      beneathAll path isHere around rest

end

namespace Glob

/-- What stands between the slashes of a pattern. -/
def pieces (cs : List Char) : List (List Char) := Text.cut (· == '/') cs

/-- The segments of a pattern. A slash at the end adds none. -/
def segments (cs : List Char) : List (List Char) :=
  if (pieces cs).getLast? == some [] then (pieces cs).dropLast else pieces cs

structure Query where
  absolute : Bool
  patterns : List Pattern
  /-- Whether only folders are asked for. -/
  foldersOnly : Bool
deriving Repr

/-- A pattern is read as a whole first and then segment by segment, so that a fault counts from the
start of the pattern or of its segment. -/
def Query.read (cs : List Char) : Except PatternError Query := do
  let _ ← Pattern.read cs
  let absolute := cs.head? == some '/'
  let body := if absolute then cs.drop 1 else cs
  let patterns ← (segments body).mapM Pattern.read
  return {
    absolute
    patterns := if body.isEmpty then [[]] else patterns
    foldersOnly := cs.getLast? == some '/' }

/-- Whether a pattern stands for a name. -/
def fits (p : Pattern) (name : List UInt8) : Bool :=
  Text.Utf8.isValid name && p.accepts (Text.Utf8.decode name)

/-- The two names that a folder always has besides those of its entries, if it can be listed. A
wildcard does not stand for them unless the pattern starts with a dot. -/
def dotNames (p : Pattern) (tree : FileTree) : List (List UInt8) :=
  if tree.list?.isSome && p.head? == some (.char '.') then
    [[Path.dot, Path.dot], [Path.dot]].filter (fits p)
  else []

/-- The places that a list of segments leads to. -/
def search (foldersOnly : Bool) : List Pattern → Found → List Found
  | [], f => if foldersOnly && !f.spot.tree.isFolder then [] else [f]
  | p :: ps, f =>
    match p.literal? with
    | some segment =>
      match f.literal? (Text.Utf8.encode segment) with
      | none => []
      | some next => search foldersOnly ps next
    | none =>
      if p.isFolders then
        match ps with
        | [] =>
          ((beneath f.path f.isHere f.spot.around f.spot.tree).map (·.2)).filter (·.spot.tree.isFolder)
        | q :: qs =>
          if q.isFolders then search foldersOnly (q :: qs) f
          else (beneath f.path f.isHere f.spot.around f.spot.tree).flatMap fun (name, next) =>
            if fits q name then search foldersOnly qs next else []
      else
        (dotNames p f.spot.tree).flatMap (fun name =>
          match f.spot.step? name with
          | none => []
          | some spot => search foldersOnly ps ⟨f.path.join name, spot⟩) ++
        f.entries.flatMap fun (name, next) =>
          if fits p name then search foldersOnly ps next else []

/-- The paths that a query finds from a workplace. -/
def Query.run (q : Query) (w : Workplace) : List Path :=
  let start : Found := if q.absolute then ⟨⟨"/"⟩, w.spot.top⟩ else ⟨⟨"."⟩, w.spot⟩
  (search q.foldersOnly q.patterns start).map (·.path)

end Glob
end DocAnswers.FileTree
