import DocAnswers.Html.Tree.Builder

/-! Formatting elements. What they format goes on beyond the elements inside which they were opened,
so they are opened again where they were closed too early, and where their end tag comes in the
wrong place the elements between are set in order. -/
namespace DocAnswers.Html.Tree

namespace Formatting

def isMarker : Formatting → Bool
  | marker => true
  | element _ _ => false

def hasId (id : Nat) : Formatting → Bool
  | marker => false
  | element other _ => other == id

def hasName (name : String) : Formatting → Bool
  | marker => false
  | element _ tag => tag.name == name

/-- Whether two tags have the same name and the same attributes, in whatever order. -/
def alike (t u : Tag) : Bool :=
  t.name == u.name && t.attributes.length == u.attributes.length &&
    t.attributes.all u.attributes.contains

def isAlike (tag : Tag) : Formatting → Bool
  | marker => false
  | element _ other => alike tag other

end Formatting

namespace Builder

def insertMarker (b : Builder) : Builder := { b with formatting := .marker :: b.formatting }

/-- Forgets the formatting since the last marker, and the marker. -/
def clearToMarker (b : Builder) : Builder :=
  { b with formatting := (b.formatting.dropWhile (!·.isMarker)).tail }

/-- The formatting since the last marker. -/
def recentFormatting (b : Builder) : List Formatting := b.formatting.takeWhile (!·.isMarker)

/-- Removes the first entry, from the end of a list, that satisfies a test. -/
def eraseLast (test : Formatting → Bool) (fs : List Formatting) : List Formatting :=
  (fs.reverse.eraseP test).reverse

/-- Of elements that are alike at most three are remembered. -/
def limitAlike (b : Builder) (tag : Tag) : List Formatting :=
  let recent := b.recentFormatting
  if 3 ≤ recent.countP (·.isAlike tag) then
    eraseLast (·.isAlike tag) recent ++ b.formatting.drop recent.length
  else b.formatting

/-- Opens a formatting element and remembers it. -/
def insertFormatting (b : Builder) (tag : Tag) : Builder :=
  let kept := b.limitAlike tag
  let id := b.arena.nodes.size
  let b := b.insertTag tag
  { b with formatting := .element id tag :: kept }

def isOpenId (b : Builder) (id : Nat) : Bool := b.stack.any (·.id == id)

/-- Opens the latest entries of a list again, the earliest of them first. -/
def reopen (b : Builder) : List Formatting → Builder × List Formatting
  | [] => (b, [])
  | .marker :: rest => (b, .marker :: rest)
  | .element id tag :: rest =>
    if b.isOpenId id then (b, .element id tag :: rest)
    else
      let (b, rest) := reopen b rest
      let id := b.arena.nodes.size
      (b.insertTag tag, .element id tag :: rest)

/-- Opens formatting again that has been closed by something else than its own end tag. -/
def reconstruct (b : Builder) : Builder :=
  let (b, formatting) := b.reopen b.formatting
  { b with formatting }

/-- Where the clone of a formatting element is remembered. -/
inductive Bookmark where
  /-- In the place of the element itself. -/
  | inPlace
  /-- As later than another element. -/
  | after (id : Nat)
deriving DecidableEq, Repr

/-- What sorting out the elements between a formatting element and a block leaves. -/
structure Sorted where
  arena : Arena
  formatting : List Formatting
  /-- What the next element is put around. -/
  last : Nat
  bookmark : Bookmark := .inPlace
  /-- The elements that stay open, the innermost first. -/
  kept : List Open := []

/-- Replaces an element's entry by one for its clone. -/
def replaceEntry (id clone : Nat) : List Formatting → List Formatting
  | [] => []
  | .element other tag :: rest =>
    if other = id then .element clone tag :: rest else .element other tag :: replaceEntry id clone rest
  | .marker :: rest => .marker :: replaceEntry id clone rest

def entryTag? (id : Nat) (fs : List Formatting) : Option Tag :=
  fs.findSome? fun
    | .element other tag => if other = id then some tag else none
    | .marker => none

/-- The elements between the block and the formatting element, from the block outwards. The first
three that are formatting are cloned around what comes from inside; the others are closed. -/
def sortOut (block : Nat) (s : Sorted) : Nat → List Open → Sorted
  | _, [] => s
  | count, e :: rest =>
    let s :=
      if 3 < count then { s with formatting := s.formatting.eraseP (·.hasId e.id) } else s
    match entryTag? e.id s.formatting with
    | none => sortOut block s (count + 1) rest
    | some tag =>
      let (arena, clone) := s.arena.create ⟨.html, tag.name, tag.attributes⟩
      sortOut block
        { arena := arena.append clone (.node s.last)
          formatting := replaceEntry e.id clone s.formatting
          last := clone
          bookmark := if s.last = block then .after clone else s.bookmark
          kept := s.kept ++ [⟨clone, .html, tag.name⟩] }
        (count + 1) rest

/-- Puts an entry before another one in a list that is kept latest first. -/
def insertEntry (id : Nat) (new : Formatting) : List Formatting → List Formatting
  | [] => []
  | f :: rest => if f.hasId id then new :: f :: rest else f :: insertEntry id new rest

/-- Remembers the clone of a formatting element in the element's place or at the bookmark. -/
def rememberClone (id clone : Nat) (tag : Tag) (mark : Bookmark) (fs : List Formatting) :
    List Formatting :=
  match mark with
  | .inPlace => replaceEntry id clone fs
  | .after other => (insertEntry other (.element clone tag) fs).eraseP (·.hasId id)

/-- Splits a stack at an element: what is inside it, and what is around it. -/
def splitStack (id : Nat) : List Open → List Open × List Open
  | [] => ([], [])
  | e :: below =>
    if e.id = id then ([], below)
    else
      let (inner, outer) := splitStack id below
      (e :: inner, outer)

/-- Splits the elements inside a formatting element at the outermost special one: what is inside that
one, itself, and what is between it and the formatting element. -/
def splitAtBlock : List Open → Option (List Open × Open × List Open)
  | [] => none
  | e :: below =>
    match splitAtBlock below with
    | some (inner, block, between) => some (e :: inner, block, between)
    | none => if isSpecial e then some ([], e, below) else none

/-- A formatting element ends around a block: the block leaves the element and a clone of the element
formats what is in the block. -/
def unwrap (b : Builder) (id : Nat) (tag : Tag) (inner : List Open) (block : Open)
    (between outer : List Open) : Builder :=
  let s := sortOut block.id { arena := b.arena, formatting := b.formatting, last := block.id } 1 between
  let detached := s.arena.detach s.last
  let arena :=
    match outer with
    | [] => detached
    | ancestor :: _ => (b.placeFor ancestor).put detached (.node s.last)
  let (arena, clone) := arena.create ⟨.html, tag.name, tag.attributes⟩
  let arena := (arena.moveContent block.id clone).append block.id (.node clone)
  { b with
    arena
    formatting := rememberClone id clone tag s.bookmark s.formatting
    stack := inner ++ ⟨clone, .html, tag.name⟩ :: block :: s.kept ++ outer }

/-- Ends the latest formatting of a name, up to as many times as the count says. -/
def adopt (name : String) : Nat → Builder → Builder
  | 0, b => b
  | count + 1, b =>
    match b.recentFormatting.find? (·.hasName name) with
    | none => b.closeGeneric name
    | some .marker => b
    | some (.element id tag) =>
      if !b.isOpenId id then { b with formatting := b.formatting.eraseP (·.hasId id) }
      else if !reaches (·.id == id) Scope.ordinary.stops b.stack then b
      else
        let (inside, outer) := splitStack id b.stack
        match splitAtBlock inside with
        | none => { b with stack := outer, formatting := b.formatting.eraseP (·.hasId id) }
        | some (inner, block, between) =>
          adopt name count (b.unwrap id tag inner block between outer)

/-- The end tag of a formatting element. -/
def closeFormatting (b : Builder) (name : String) : Builder :=
  match b.stack with
  | e :: below =>
    if e.isHtml name && !b.formatting.any (·.hasId e.id) then { b with stack := below }
    else adopt name 8 b
  | [] => adopt name 8 b

/-- A link that is still open ends where another one starts. -/
def closeLink (b : Builder) : Builder :=
  match b.recentFormatting.find? (·.hasName "a") with
  | some (.element id _) =>
    let b := b.closeFormatting "a"
    { b with
      formatting := b.formatting.eraseP (·.hasId id)
      stack := b.stack.filter (·.id ≠ id) }
  | _ => b

end Builder
end DocAnswers.Html.Tree
