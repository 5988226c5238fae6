/-! Text as bytes, and bytes read as text. Well-formed UTF-8 is read as the characters it encodes;
every maximal ill-formed subsequence, that is, the longest start of a character that the bytes break
off, or one byte where no character can start, is read as one replacement character. -/
namespace DocAnswers.Text

/-- The character that stands for what cannot be read. -/
def replacement : Char := Char.ofNat 0xFFFD

namespace Utf8

/-- The bytes of some characters. -/
def encode (cs : List Char) : List UInt8 := cs.flatMap String.utf8EncodeChar

/-- How a character goes on after its first byte: how many bytes follow, and the least and the
greatest value of the first of them. The others are from 80 to BF. -/
structure Lead where
  following : Nat
  low : UInt8
  high : UInt8
deriving DecidableEq, Repr

/-- The bytes at which a character of more than one byte can start. The bounds exclude overlong
forms, surrogates and everything above 10FFFF. -/
def lead? (b : UInt8) : Option Lead :=
  if 0xC2 ≤ b && b ≤ 0xDF then some ⟨1, 0x80, 0xBF⟩
  else if b == 0xE0 then some ⟨2, 0xA0, 0xBF⟩
  else if b == 0xED then some ⟨2, 0x80, 0x9F⟩
  else if 0xE1 ≤ b && b ≤ 0xEF then some ⟨2, 0x80, 0xBF⟩
  else if b == 0xF0 then some ⟨3, 0x90, 0xBF⟩
  else if 0xF1 ≤ b && b ≤ 0xF3 then some ⟨3, 0x80, 0xBF⟩
  else if b == 0xF4 then some ⟨3, 0x80, 0x8F⟩
  else none

/-- How many of the next bytes go on with the character, at most as many as it needs. -/
def continued : Nat → UInt8 → UInt8 → List UInt8 → Nat
  | 0, _, _, _ => 0
  | _ + 1, _, _, [] => 0
  | n + 1, low, high, b :: bs =>
    if low ≤ b && b ≤ high then continued n 0x80 0xBF bs + 1 else 0

/-- The bits that a byte of a longer character contributes. -/
def payload (b : UInt8) : Nat := b.toNat % 64

/-- The bits that the first byte of a longer character contributes. -/
def leadPayload (following : Nat) (b : UInt8) : Nat := b.toNat % Nat.pow 2 (6 - following)

def codePoint (following : Nat) (b : UInt8) (tail : List UInt8) : Nat :=
  tail.foldl (fun n t => n * 64 + payload t) (leadPayload following b)

/-- What stands at the front of some bytes: a character, or nothing where the bytes are ill-formed,
and how many bytes after the first belong to it. -/
def front (b : UInt8) (bs : List UInt8) : Option Char × Nat :=
  if b < 0x80 then (some (Char.ofNat b.toNat), 0)
  else match lead? b with
    | none => (none, 0)
    | some l =>
      let n := continued l.following l.low l.high bs
      if n = l.following then (some (Char.ofNat (codePoint l.following b (bs.take n))), n)
      else (none, n)

/-- The characters at the fronts of what follows so many bytes, which belong to the front before. -/
def frontsAfter : Nat → List UInt8 → List (Option Char)
  | _, [] => []
  | 0, b :: bs => (front b bs).1 :: frontsAfter (front b bs).2 bs
  | n + 1, _ :: bs => frontsAfter n bs

/-- The characters at the fronts, in order, with nothing for an ill-formed subsequence. -/
def fronts (bs : List UInt8) : List (Option Char) := frontsAfter 0 bs

/-- The text that some bytes are read as. -/
def decode (bytes : List UInt8) : List Char := (fronts bytes).map (·.getD replacement)

def isValid (bytes : List UInt8) : Bool := (fronts bytes).all (·.isSome)

end Utf8
end DocAnswers.Text
