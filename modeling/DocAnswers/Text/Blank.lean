/-! White space, and the cutting of text at it. Text is worked on as a list of characters, or of bytes:
`cut` splits a list at every member of a class, `trim` drops white space at both ends, and `words`
are the maximal runs without white space. -/
namespace DocAnswers.Text

/-- The twenty-five characters with the Unicode property `White_Space`. -/
def isBlank (c : Char) : Bool :=
  let n := c.toNat
  (0x09 ≤ n && n ≤ 0x0D) || n == 0x20 || n == 0x85 || n == 0xA0 || n == 0x1680 ||
    (0x2000 ≤ n && n ≤ 0x200A) || n == 0x2028 || n == 0x2029 || n == 0x202F || n == 0x205F ||
    n == 0x3000

/-- The pieces between the members of a class, which are dropped. There is one piece more than there
are such members, so an empty list is one empty piece. -/
def cut {α : Type} (sep : α → Bool) : List α → List (List α)
  | [] => [[]]
  | c :: cs =>
    if sep c then [] :: cut sep cs
    else match cut sep cs with
      | [] => [[c]]
      | piece :: pieces => (c :: piece) :: pieces

def trimStart (cs : List Char) : List Char := cs.dropWhile isBlank

def trimEnd (cs : List Char) : List Char := (cs.reverse.dropWhile isBlank).reverse

/-- The text without white space at either end. -/
def trim (cs : List Char) : List Char := trimEnd (trimStart cs)

/-- The maximal runs without white space, in order. -/
def words (cs : List Char) : List (List Char) := (cut isBlank cs).filter (!·.isEmpty)

/-- Pieces put together again, with a separator between each two. -/
def join (sep : List Char) : List (List Char) → List Char
  | [] => []
  | [piece] => piece
  | piece :: pieces => piece ++ sep ++ join sep pieces

theorem join_eq_intercalate (sep : List Char) (pieces : List (List Char)) :
    join sep pieces = sep.intercalate pieces := by
  induction pieces with
  | nil => rfl
  | cons piece pieces ih =>
    cases pieces with
    | nil => exact List.intercalate_singleton.symm
    | cons next pieces =>
      rw [join, ih, List.intercalate_cons_cons]
      simp

/-- The text after a leading piece, if the text starts with that piece. -/
def after? (lead cs : List Char) : Option (List Char) :=
  if lead.isPrefixOf cs then some (cs.drop lead.length) else none

end DocAnswers.Text
