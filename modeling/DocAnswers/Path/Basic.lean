import DocAnswers.Text.Blank
import DocAnswers.Text.Utf8

/-! File paths. A path is its bytes, of which a text is shown that is not always the path itself: what
is ill-formed in it is replaced. Two paths are the same when their components agree: repeated and
trailing slashes and inner `.` segments do not count. Paths are ordered by their components, one after
the other. -/
namespace DocAnswers

/-- A text where bytes are expected is its own bytes. -/
instance textBytes : Coe String (List UInt8) where
  coe text := Text.Utf8.encode text.toList

@[ext]
structure Path where
  bytes : List UInt8
deriving DecidableEq, Repr

namespace Path
open Text

/-- The text by which a path is shown. -/
def text (p : Path) : String := String.ofList (Utf8.decode p.bytes)

abbrev slash : UInt8 := 0x2F

abbrev dot : UInt8 := 0x2E

inductive Component where
  | root
  /-- A leading `.`. -/
  | here
  | up
  | name (bytes : List UInt8)
deriving DecidableEq, Repr

/-- What a segment between two slashes contributes. -/
def Component.ofSegment? (segment : List UInt8) : Option Component :=
  if segment.isEmpty || segment == [dot] then none
  else if segment == [dot, dot] then some .up
  else some (.name segment)

/-- The segments between the slashes of some bytes. -/
def segments (bs : List UInt8) : List (List UInt8) := cut (· == slash) bs

/-- An absolute path starts with a slash, and only the first segment of a relative one may be a `.`
that counts. -/
def componentList : List (List UInt8) → List Component
  | [] => []
  | first :: rest =>
    let start :=
      if first.isEmpty then (if rest.isEmpty then [] else [.root])
      else if first == [dot] then [.here]
      else (Component.ofSegment? first).toList
    start ++ rest.filterMap Component.ofSegment?

def components (p : Path) : List Component := componentList (segments p.bytes)

/-- The name that a path ends in, unless it ends in `..`, is `.` or is the root. -/
def fileName? (p : Path) : Option (List UInt8) :=
  match p.components.getLast? with
  | some (.name n) => some n
  | _ => none

def Component.rank : Component → Nat
  | .root => 0
  | .here => 1
  | .up => 2
  | .name _ => 3

def Component.compare : Component → Component → Ordering
  | .name a, .name b => Ord.compare a b
  | a, b => Ord.compare a.rank b.rank

def compareComponents : List Component → List Component → Ordering
  | [], [] => .eq
  | [], _ :: _ => .lt
  | _ :: _, [] => .gt
  | a :: as, b :: bs => (a.compare b).then (compareComponents as bs)

def compare (p q : Path) : Ordering := compareComponents p.components q.components

/-- A name inside the folder that a path names. -/
def join (folder : Path) (name : List UInt8) : Path :=
  if folder.bytes.isEmpty then ⟨name⟩
  else if folder.bytes.getLast? == some slash then ⟨folder.bytes ++ name⟩
  else ⟨folder.bytes ++ slash :: name⟩

end Path
end DocAnswers
