/-! Percent-encoding of a text for a place in a URL: letters, digits and the four marks `-`, `_`, `.`
and `~` stand for themselves, every other byte of the text's UTF-8 form is a percent sign and two
capital hexadecimal digits. -/
namespace DocAnswers.Text.PercentEncoding

def isUnreserved (c : Char) : Bool :=
  c.isAlphanum || c == '-' || c == '_' || c == '.' || c == '~'

/-- The capital hexadecimal digit for a value below sixteen. -/
def hexDigit (n : Nat) : Char :=
  if n < 10 then Char.ofNat (n + 0x30) else Char.ofNat (n - 10 + 0x41)

def encodeByte (b : UInt8) : List Char :=
  let c := Char.ofNat b.toNat
  if isUnreserved c then [c] else ['%', hexDigit (b.toNat / 16), hexDigit (b.toNat % 16)]

def encodeBytes (bytes : List UInt8) : List Char := bytes.flatMap encodeByte

def encode (s : String) : String :=
  String.ofList (encodeBytes (s.toList.flatMap String.utf8EncodeChar))

end DocAnswers.Text.PercentEncoding
