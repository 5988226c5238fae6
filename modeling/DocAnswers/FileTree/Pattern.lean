import DocAnswers.Text.Blank

/-! File name patterns. A question mark stands for one character, a star for any text, brackets for
one character of a set, with an exclamation mark for one outside the set, and two stars, which have
to be a whole segment of a path, for any number of folders. -/
namespace DocAnswers.FileTree

/-- A member of a bracketed set. -/
inductive Range where
  | single (c : Char)
  | between (first last : Char)
deriving DecidableEq, Repr

def Range.holds (c : Char) : Range → Bool
  | single d => c == d
  | between first last => first.toNat ≤ c.toNat && c.toNat ≤ last.toNat

inductive Wild where
  | char (c : Char)
  | anyChar
  | anyText
  /-- Two stars. -/
  | anyFolders
  | within (set : List Range)
  | outside (set : List Range)
deriving DecidableEq, Repr

inductive PatternFault where
  | starCount
  | partialFolders
  | openSet
deriving DecidableEq, Repr

def PatternFault.message : PatternFault → String
  | starCount => "wildcards are either regular `*` or recursive `**`"
  | partialFolders => "recursive wildcards must form a single path component"
  | openSet => "invalid range pattern"

structure PatternError where
  /-- The number of characters before the fault. -/
  position : Nat
  fault : PatternFault
deriving DecidableEq, Repr

def PatternError.message (e : PatternError) : String :=
  "Pattern syntax error near position " ++ toString e.position ++ ": " ++ e.fault.message

abbrev Pattern := List Wild

namespace Pattern

/-- The members of a set as written: three characters with a dash in the middle are a range. -/
def setOf : List Char → List Range
  | a :: '-' :: b :: rest => .between a b :: setOf rest
  | a :: rest => .single a :: setOf rest
  | [] => []

/-- The inside of a set that a bracket opens, and what follows the bracket that closes it. The first
character always belongs to the set, so that it may be a closing bracket itself. -/
def readSet : List Char → Option (List Char × List Char)
  | [] => none
  | first :: rest =>
    match rest.dropWhile (· ≠ ']') with
    | [] => none
    | _ :: after => some (first :: rest.takeWhile (· ≠ ']'), after)

/-- A set after its opening bracket, and what follows it. -/
def bracket : List Char → Option (Wild × List Char)
  | '!' :: rest => (readSet rest).map fun (inside, after) => (.outside (setOf inside), after)
  | rest => (readSet rest).map fun (inside, after) => (.within (setOf inside), after)

/-- Adds two stars to a pattern read so far, unless the pattern ends in them already and is not
just them. -/
def pushFolders (done : Pattern) : Pattern :=
  if 1 < done.length && done.getLast? == some .anyFolders then done else done ++ [.anyFolders]

/-- Two stars have to stand at the start or after a slash, and before a slash or at the end. The
slash after them belongs to them. -/
def readFolders (position : Nat) (previous : Option Char) (rest : List Char) :
    Except PatternError (List Char) :=
  if previous.all (· == '/') then
    match rest with
    | [] => .ok []
    | '/' :: after => .ok after
    | _ :: _ => .error ⟨position + 2, .partialFolders⟩
  else .error ⟨position - 1, .partialFolders⟩

/-- Reads on at a position, behind a previous character. -/
def readFrom (position : Nat) (previous : Option Char) (done : Pattern) (cs : List Char) :
    Except PatternError Pattern :=
  match cs with
  | [] => .ok done
  | '?' :: rest => readFrom (position + 1) (some '?') (done ++ [.anyChar]) rest
  | '*' :: '*' :: '*' :: _ => .error ⟨position + 2, .starCount⟩
  | '*' :: '*' :: rest =>
    match readFolders position previous rest with
    | .error e => .error e
    | .ok after =>
      if after.length < rest.length then
        readFrom (position + 3) (some '/') (pushFolders done) after
      else .ok (pushFolders done)
  | '*' :: rest => readFrom (position + 1) (some '*') (done ++ [.anyText]) rest
  | '[' :: rest =>
    match bracket rest with
    | none => .error ⟨position, .openSet⟩
    | some (set, after) =>
      if after.length < rest.length then
        readFrom (position + 1 + (rest.length - after.length)) (some ']') (done ++ [set]) after
      else .ok (done ++ [set])
  | c :: rest => readFrom (position + 1) (some c) (done ++ [.char c]) rest
termination_by cs.length

def read (cs : List Char) : Except PatternError Pattern := readFrom 0 none [] cs

def Wild.accepts (c : Char) : Wild → Bool
  | .char d => c == d
  | .anyChar => true
  | .within set => set.any (·.holds c)
  | .outside set => !set.any (·.holds c)
  | _ => false

/-- Whether a pattern stands for a text. -/
def accepts : Pattern → List Char → Bool
  | [], cs => cs.isEmpty
  | .anyText :: ws, cs => accepts ws cs || acceptsLater ws cs
  | .anyFolders :: ws, cs => accepts ws cs || acceptsLater ws cs
  | w :: ws, c :: cs => Wild.accepts c w && accepts ws cs
  | _ :: _, [] => false
where
  /-- Whether a pattern stands for some proper ending of a text. -/
  acceptsLater (ws : Pattern) : List Char → Bool
    | [] => false
    | _ :: cs => accepts ws cs || acceptsLater ws cs

/-- The text of a pattern without wildcards. -/
def literal? (p : Pattern) : Option (List Char) :=
  p.mapM fun
    | .char c => some c
    | _ => none

def isFolders (p : Pattern) : Bool := p.contains .anyFolders

end Pattern
end DocAnswers.FileTree
