import DocAnswers.FileTree.Basic

/-! Trees built from a list of files, each with its path from the outermost folder of the tree. -/
namespace DocAnswers.FileTree

def empty : FileTree := folder true []

/-- Puts an entry into a folder, in the place of any that has its name. -/
def setEntry (name : List UInt8) (tree : FileTree) :
    List (List UInt8 × FileTree) → List (List UInt8 × FileTree)
  | [] => [(name, tree)]
  | (other, t) :: rest =>
    if other = name then (name, tree) :: rest else (other, t) :: setEntry name tree rest

/-- Puts a tree to the place that names lead to, with all folders on the way. A folder that is there
already stays, and nothing goes beyond a file. -/
def put (new : FileTree) : List (List UInt8) → FileTree → FileTree
  | [], old => if new.isFolder && old.isFolder then old else new
  | name :: names, folder listable entries =>
    folder listable (setEntry name (put new names ((entries.lookup name).getD empty)) entries)
  | _ :: _, file content => file content

/-- The names on the way to a path inside a tree. -/
def namesTo (p : Path) : List (List UInt8) :=
  p.components.filterMap fun
    | .name n => some n
    | _ => none

def putFile (tree : FileTree) (f : Path × List UInt8) : FileTree :=
  put (file (some f.2)) (namesTo f.1) tree

def putFolder (tree : FileTree) (p : Path) : FileTree := put empty (namesTo p) tree

/-- The tree with some files and folders. -/
def ofListing (files : List (Path × List UInt8)) (folders : List Path) : FileTree :=
  folders.foldl putFolder (files.foldl putFile empty)

/-- The folders around a tree whose names are given, the nearest first. Nothing else stands in them. -/
def enclosing : FileTree → List (List UInt8) → List FileTree
  | _, [] => []
  | tree, name :: outer =>
    let around := folder true [(name, tree)]
    around :: enclosing around outer

/-- A workplace whose folder holds a tree and stands at an absolute path. -/
def Workplace.ofTree (folder : Path) (tree : FileTree) : Workplace where
  spot := ⟨tree, enclosing tree (namesTo folder).reverse⟩
  name := folder.fileName?

end DocAnswers.FileTree
