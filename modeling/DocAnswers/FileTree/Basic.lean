import DocAnswers.Path.Basic

/-! Trees of files, as a program finds them, and the place in such a tree to which a path leads from
the program's own folder. -/
namespace DocAnswers

inductive FileTree where
  /-- A file with its bytes, if it can be read. -/
  | file (content : Option (List UInt8))
  /-- A folder with its entries, which may be hidden from listing but not from paths that name them. -/
  | folder (listable : Bool) (entries : List (List UInt8 × FileTree))

namespace FileTree

def isFile : FileTree → Bool
  | file _ => true
  | folder _ _ => false

def isFolder : FileTree → Bool
  | file _ => false
  | folder _ _ => true

/-- The entries of a folder, if it can be listed. -/
def list? : FileTree → Option (List (List UInt8 × FileTree))
  | folder true entries => some entries
  | _ => none

/-- A place in a tree: what stands there, and the folders around it, the nearest first. -/
structure Spot where
  tree : FileTree
  around : List FileTree

namespace Spot

/-- One segment of a path further. Nothing lies beyond a file, and the outermost folder is its own
parent. -/
def step? (s : Spot) (segment : List UInt8) : Option Spot :=
  match s.tree with
  | file _ => none
  | folder _ entries =>
    if segment.isEmpty || segment == [Path.dot] then some s
    else if segment == [Path.dot, Path.dot] then
      match s.around with
      | [] => some s
      | parent :: rest => some ⟨parent, rest⟩
    else (entries.lookup segment).map fun entry => ⟨entry, s.tree :: s.around⟩

def walk? : Spot → List (List UInt8) → Option Spot
  | s, [] => some s
  | s, segment :: rest => (s.step? segment).bind (walk? · rest)

/-- The outermost folder. -/
def top (s : Spot) : Spot :=
  match s.around.getLast? with
  | none => s
  | some tree => ⟨tree, []⟩

end Spot

/-- Where a program runs: its folder, and that folder's name if it has one. -/
structure Workplace where
  spot : Spot
  name : Option (List UInt8)

namespace Workplace

/-- What stands at the end of a path. The empty path leads nowhere, and a slash at the end asks for a
folder. -/
def find? (w : Workplace) (p : Path) : Option Spot :=
  if p.bytes.isEmpty then none
  else
    let start := if p.bytes.head? == some Path.slash then w.spot.top else w.spot
    start.walk? (Path.segments p.bytes)

def isFile (w : Workplace) (p : Path) : Bool := (w.find? p).any (·.tree.isFile)

def isFolder (w : Workplace) (p : Path) : Bool := (w.find? p).any (·.tree.isFolder)

end Workplace
end FileTree
end DocAnswers
