/-! JSON values without numbers, and their text over several lines: two spaces for each level, and an
empty array or object on one line. -/
namespace DocAnswers

inductive Json where
  | string (text : String)
  | array (items : List Json)
  | object (members : List (String × Json))
deriving Repr

namespace Json

def hexDigit (n : Nat) : Char := Nat.digitChar n

/-- Quotes, backslashes and the controls below the space are escaped, and nothing else. -/
def escape (c : Char) : List Char :=
  if c = '"' then ['\\', '"']
  else if c = '\\' then ['\\', '\\']
  else if c = '\x08' then ['\\', 'b']
  else if c = '\x0c' then ['\\', 'f']
  else if c = '\n' then ['\\', 'n']
  else if c = '\r' then ['\\', 'r']
  else if c = '\t' then ['\\', 't']
  else if c.toNat < 0x20 then ['\\', 'u', '0', '0', hexDigit (c.toNat / 16), hexDigit (c.toNat % 16)]
  else [c]

def quote (text : String) : List Char := '"' :: text.toList.flatMap escape ++ ['"']

/-- A line feed, and the indentation of the next line. -/
def newline (depth : Nat) : List Char := '\n' :: List.replicate (2 * depth) ' '

mutual

/-- The text of a value that stands at some depth. -/
def layout (depth : Nat) : Json → List Char
  | string text => quote text
  | array [] => ['[', ']']
  | array (item :: items) =>
    '[' :: newline (depth + 1) ++ layout (depth + 1) item ++ layoutItems (depth + 1) items ++
      newline depth ++ [']']
  | object [] => ['\x7b', '\x7d']
  | object ((key, value) :: members) =>
    '\x7b' :: newline (depth + 1) ++ quote key ++ [':', ' '] ++ layout (depth + 1) value ++
      layoutMembers (depth + 1) members ++ newline depth ++ ['\x7d']

/-- The items after the first, each behind a comma. -/
def layoutItems (depth : Nat) : List Json → List Char
  | [] => []
  | item :: items => ',' :: newline depth ++ layout depth item ++ layoutItems depth items

/-- The members after the first, each behind a comma. -/
def layoutMembers (depth : Nat) : List (String × Json) → List Char
  | [] => []
  | (key, value) :: members =>
    ',' :: newline depth ++ quote key ++ [':', ' '] ++ layout depth value ++
      layoutMembers depth members

end

def pretty (j : Json) : String := String.ofList (layout 0 j)

end Json
end DocAnswers
