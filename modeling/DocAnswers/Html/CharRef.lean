import DocAnswers.Html.CharRef.Capitals
import DocAnswers.Html.CharRef.SmallAToL
import DocAnswers.Html.CharRef.SmallMToZ
import DocAnswers.Text.Utf8

/-! Character references: what an ampersand and the characters after it stand for. A name stands for
one or two characters and the longest name counts; a number is decimal, or hexadecimal after an `x`.
The semicolon at the end may be missing after numbers and after the oldest names. -/
namespace DocAnswers.Html.CharRef

/-- The names that start with a letter. -/
def namesFrom : Char → List (String × List Nat)
  | 'A' => namesUpperA | 'B' => namesUpperB | 'C' => namesUpperC | 'D' => namesUpperD
  | 'E' => namesUpperE | 'F' => namesUpperF | 'G' => namesUpperG | 'H' => namesUpperH
  | 'I' => namesUpperI | 'J' => namesUpperJ | 'K' => namesUpperK | 'L' => namesUpperL
  | 'M' => namesUpperM | 'N' => namesUpperN | 'O' => namesUpperO | 'P' => namesUpperP
  | 'Q' => namesUpperQ | 'R' => namesUpperR | 'S' => namesUpperS | 'T' => namesUpperT
  | 'U' => namesUpperU | 'V' => namesUpperV | 'W' => namesUpperW | 'X' => namesUpperX
  | 'Y' => namesUpperY | 'Z' => namesUpperZ
  | 'a' => namesLowerA | 'b' => namesLowerB | 'c' => namesLowerC | 'd' => namesLowerD
  | 'e' => namesLowerE | 'f' => namesLowerF | 'g' => namesLowerG | 'h' => namesLowerH
  | 'i' => namesLowerI | 'j' => namesLowerJ | 'k' => namesLowerK | 'l' => namesLowerL
  | 'm' => namesLowerM | 'n' => namesLowerN | 'o' => namesLowerO | 'p' => namesLowerP
  | 'q' => namesLowerQ | 'r' => namesLowerR | 's' => namesLowerS | 't' => namesLowerT
  | 'u' => namesLowerU | 'v' => namesLowerV | 'w' => namesLowerW | 'x' => namesLowerX
  | 'y' => namesLowerY | 'z' => namesLowerZ
  | _ => []

/-- The longest name of a list that some characters start with. -/
def longest (cs : List Char) : List (String × List Nat) → Option (List Char × List Nat)
  | [] => none
  | (name, points) :: rest =>
    match longest cs rest with
    | some best =>
      if best.1.length < name.length && name.toList.isPrefixOf cs then some (name.toList, points)
      else some best
    | none => if name.toList.isPrefixOf cs then some (name.toList, points) else none

/-- What the numbers from 128 to 159 stand for, where it is not the character of that number. -/
def windows : List (Nat × Nat) :=
  [(0x80, 0x20AC), (0x82, 0x201A), (0x83, 0x0192), (0x84, 0x201E), (0x85, 0x2026), (0x86, 0x2020),
   (0x87, 0x2021), (0x88, 0x02C6), (0x89, 0x2030), (0x8A, 0x0160), (0x8B, 0x2039), (0x8C, 0x0152),
   (0x8E, 0x017D), (0x91, 0x2018), (0x92, 0x2019), (0x93, 0x201C), (0x94, 0x201D), (0x95, 0x2022),
   (0x96, 0x2013), (0x97, 0x2014), (0x98, 0x02DC), (0x99, 0x2122), (0x9A, 0x0161), (0x9B, 0x203A),
   (0x9C, 0x0153), (0x9E, 0x017E), (0x9F, 0x0178)]

/-- The character that a number stands for. Zero, surrogates and numbers beyond the last code point
stand for the replacement character. -/
def ofNumber (n : Nat) : Char :=
  if n = 0 || 0x10FFFF < n || (0xD800 ≤ n && n ≤ 0xDFFF) then Text.replacement
  else Char.ofNat ((windows.lookup n).getD n)

def isHexDigit (c : Char) : Bool :=
  c.isDigit || ('a' ≤ c && c ≤ 'f') || ('A' ≤ c && c ≤ 'F')

def digitValue (c : Char) : Nat :=
  if c.isDigit then c.toNat - 0x30
  else if 'a' ≤ c && c ≤ 'f' then c.toNat - 0x61 + 10
  else c.toNat - 0x41 + 10

def number (base : Nat) (digits : List Char) : Nat :=
  digits.foldl (fun n c => n * base + digitValue c) 0

/-- A number's digits and the semicolon that may end them. The count also covers what stands before
the digits. -/
def ofDigits? (before base : Nat) (isDigit : Char → Bool) (cs : List Char) :
    Option (List Char × Nat) :=
  let digits := cs.takeWhile isDigit
  if digits.isEmpty then none
  else
    let close := if (cs.drop digits.length).head? == some ';' then 1 else 0
    some ([ofNumber (number base digits)], before + digits.length + close)

/-- Inside an attribute a name without a semicolon does not count before an equals sign, a letter or a
digit. -/
def blocked (inAttribute : Bool) (name rest : List Char) : Bool :=
  inAttribute && name.getLast? != some ';' && rest.head?.any fun c => c == '=' || c.isAlphanum

/-- What the characters after an ampersand stand for, and how many of them do so. -/
def read? (inAttribute : Bool) : List Char → Option (List Char × Nat)
  | '#' :: 'x' :: cs => ofDigits? 2 16 isHexDigit cs
  | '#' :: 'X' :: cs => ofDigits? 2 16 isHexDigit cs
  | '#' :: cs => ofDigits? 1 10 Char.isDigit cs
  | [] => none
  | c :: cs =>
    match longest (c :: cs) (namesFrom c) with
    | none => none
    | some (name, points) =>
      if blocked inAttribute name ((c :: cs).drop name.length) then none
      else some (points.map Char.ofNat, name.length)

/-- A text with its character references resolved. -/
def decode (inAttribute : Bool) : List Char → List Char
  | [] => []
  | '&' :: cs =>
    match read? inAttribute cs with
    | none => '&' :: decode inAttribute cs
    | some (chars, count) => chars ++ decode inAttribute (cs.drop count)
  | c :: cs => c :: decode inAttribute cs
termination_by cs => cs.length
decreasing_by all_goals simp; try omega

end DocAnswers.Html.CharRef
