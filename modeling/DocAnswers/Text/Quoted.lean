import DocAnswers.Text.Printable

/-! Texts as a log line shows them. A quoted text stands between double quotes, with a backslash
before quotes and backslashes, short escapes for the common controls, and the code point of every
other character that would not be seen by itself. -/
namespace DocAnswers.Text.Quoted

/-- A number in hexadecimal, with small digits and no leading zero. -/
def hex (n : Nat) : List Char := Nat.toDigits 16 n

def codePoint (c : Char) : List Char := ['\\', 'u', '\x7b'] ++ hex c.toNat ++ ['\x7d']

def encodeChar (c : Char) : List Char :=
  if c = '\x00' then ['\\', '0']
  else if c = '\t' then ['\\', 't']
  else if c = '\r' then ['\\', 'r']
  else if c = '\n' then ['\\', 'n']
  else if c = '\\' then ['\\', '\\']
  else if c = '"' then ['\\', '"']
  else if isPrintable c then [c]
  else codePoint c

def encode (s : String) : String :=
  String.ofList ('"' :: s.toList.flatMap encodeChar ++ ['"'])

/-- A message is not quoted, but the controls that could steer a terminal are shown as escapes. -/
def disarmChar (c : Char) : List Char :=
  if c = '\x1b' then ['\\', 'x', '1', 'b']
  else if c = '\x07' then ['\\', 'x', '0', '7']
  else if c = '\x08' then ['\\', 'x', '0', '8']
  else if c = '\x0c' then ['\\', 'x', '0', 'c']
  else if c = '\x7f' then ['\\', 'x', '7', 'f']
  else if 0x80 ≤ c.toNat && c.toNat ≤ 0x9F then codePoint c
  else [c]

def disarm (s : String) : String := String.ofList (s.toList.flatMap disarmChar)

end DocAnswers.Text.Quoted
