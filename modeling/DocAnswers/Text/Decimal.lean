/-! Counts written in decimal digits, with or without a plus sign. -/
namespace DocAnswers.Text.Decimal

def digitValue (c : Char) : Nat := c.toNat - 0x30

def ofDigits (cs : List Char) : Nat := cs.foldl (fun n c => n * 10 + digitValue c) 0

def withoutPlus : List Char → List Char
  | '+' :: cs => cs
  | cs => cs

/-- The count that a text stands for. There has to be a digit, and nothing but digits. -/
def read? (cs : List Char) : Option Nat :=
  let digits := withoutPlus cs
  if digits.isEmpty || !digits.all Char.isDigit then none else some (ofDigits digits)

end DocAnswers.Text.Decimal
