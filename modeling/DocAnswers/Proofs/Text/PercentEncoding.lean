import DocAnswers.Html.CharRef
import DocAnswers.Text.PercentEncoding
import Mathlib.Data.List.Basic

/-! Percent-encoded text: what it consists of, and that it is read as the bytes it was made from. -/
namespace DocAnswers.Text

/-- The bytes of a text in UTF-8. -/
theorem toList_toByteArray (s : String) :
    s.toByteArray.data.toList = s.toList.flatMap String.utf8EncodeChar := by
  conv => lhs; rw [← String.ofList_toList (s := s), String.toByteArray_ofList, List.utf8Encode]
  exact List.toList_data_toByteArray

namespace PercentEncoding
open Html.CharRef (isHexDigit digitValue)

def isCapitalDigit (c : Char) : Bool := c.isDigit || ('A' ≤ c && c ≤ 'F')

/-- Unreserved characters, and percent signs with two capital hexadecimal digits each. -/
inductive Encoded : List Char → Prop where
  | nil : Encoded []
  | unreserved (plain : isUnreserved c = true) (later : Encoded cs) : Encoded (c :: cs)
  | byte (high : isCapitalDigit a = true) (low : isCapitalDigit b = true) (later : Encoded cs) :
    Encoded ('%' :: a :: b :: cs)

/-- The bytes that a text stands for. A percent sign without two digits stands for itself. -/
def decode : List Char → List UInt8
  | [] => []
  | '%' :: a :: b :: rest =>
    if isHexDigit a && isHexDigit b then UInt8.ofNat (digitValue a * 16 + digitValue b) :: decode rest
    else String.utf8EncodeChar '%' ++ decode (a :: b :: rest)
  | c :: rest => String.utf8EncodeChar c ++ decode rest

theorem hexDigit_spec (small : n < 16) : isCapitalDigit (hexDigit n) = true ∧
    isHexDigit (hexDigit n) = true ∧ digitValue (hexDigit n) = n := by
  have digits : ∀ n < 16, isCapitalDigit (hexDigit n) = true ∧
      isHexDigit (hexDigit n) = true ∧ digitValue (hexDigit n) = n := by
    decide
  exact digits n small

/-- A byte is written as the character that it is in UTF-8, or by its two digits. -/
theorem encodeByte_eq (b : UInt8) :
    (∃ c, isUnreserved c = true ∧ encodeByte b = [c] ∧ String.utf8EncodeChar c = [b]) ∨
      encodeByte b = ['%', hexDigit (b.toNat / 16), hexDigit (b.toNat % 16)] := by
  have alone : ∀ n < 256, isUnreserved (Char.ofNat n) = true →
      String.utf8EncodeChar (Char.ofNat n) = [UInt8.ofNat n] := by
    decide +kernel
  rw [encodeByte]
  cases unreserved : isUnreserved (Char.ofNat b.toNat) with
  | true =>
    have byte := alone b.toNat b.toNat_lt unreserved
    rw [UInt8.ofNat_toNat] at byte
    exact .inl ⟨_, unreserved, rfl, byte⟩
  | false => exact .inr rfl

theorem Encoded.encodeByte (b : UInt8) (later : Encoded cs) : Encoded (encodeByte b ++ cs) := by
  have bound : b.toNat < 256 := b.toNat_lt
  rcases encodeByte_eq b with ⟨c, plain, written, -⟩ | written
  · rw [written]
    exact .unreserved plain later
  · rw [written]
    exact .byte (hexDigit_spec (by omega)).1 (hexDigit_spec (by omega)).1 later

theorem encoded_encodeBytes (bytes : List UInt8) : Encoded (encodeBytes bytes) := by
  induction bytes with
  | nil => exact .nil
  | cons b bytes ih => exact ih.encodeByte b

theorem encoded_encode (s : String) : Encoded (encode s).toList := by
  rw [encode, String.toList_ofList]
  exact encoded_encodeBytes _

theorem isUnreserved_of_isCapitalDigit (capital : isCapitalDigit c = true) : isUnreserved c = true := by
  simp only [isCapitalDigit, Bool.or_eq_true, Bool.and_eq_true, decide_eq_true_eq] at capital
  have alphanumeric : c.isAlphanum = (c.isUpper || c.isLower || c.isDigit) := rfl
  rcases capital with decimal | ⟨above, below⟩
  · simp [isUnreserved, alphanumeric, decimal]
  · have upper : c.isUpper = true := decide_eq_true ⟨above, Char.le_trans below (by decide)⟩
    simp [isUnreserved, alphanumeric, upper]

theorem Encoded.of_mem (encoded : Encoded cs) (member : c ∈ cs) : isUnreserved c = true ∨ c = '%' := by
  induction encoded with
  | nil => contradiction
  | unreserved plain _ ih =>
    rcases List.mem_cons.mp member with rfl | later
    · exact .inl plain
    · exact ih later
  | byte high low _ ih =>
    simp only [List.mem_cons] at member
    rcases member with rfl | rfl | rfl | later
    · exact .inr rfl
    · exact .inl (isUnreserved_of_isCapitalDigit high)
    · exact .inl (isUnreserved_of_isCapitalDigit low)
    · exact ih later

/-- A character that means something in a URL is never in encoded text, except for percent signs. -/
theorem Encoded.not_mem (encoded : Encoded cs) (reserved : isUnreserved c = false) (other : c ≠ '%') :
    c ∉ cs := by
  intro member
  rcases encoded.of_mem member with plain | percent
  · rw [reserved] at plain
    contradiction
  · exact other percent

theorem decode_unreserved (plain : isUnreserved c = true) (rest : List Char) :
    decode (c :: rest) = String.utf8EncodeChar c ++ decode rest := by
  rw [decode]
  rintro a b rest' rfl
  contradiction

theorem decode_encodeByte (b : UInt8) (rest : List Char) :
    decode (encodeByte b ++ rest) = b :: decode rest := by
  have bound : b.toNat < 256 := b.toNat_lt
  rcases encodeByte_eq b with ⟨c, plain, written, byte⟩ | written
  · rw [written, List.singleton_append, decode_unreserved plain, byte, List.singleton_append]
  · obtain ⟨-, high, highValue⟩ := hexDigit_spec (n := b.toNat / 16) (by omega)
    obtain ⟨-, low, lowValue⟩ := hexDigit_spec (n := b.toNat % 16) (by omega)
    have value : b.toNat / 16 * 16 + b.toNat % 16 = b.toNat := by omega
    rw [written, List.cons_append, List.cons_append, List.cons_append, List.nil_append, decode, high, low,
      highValue, lowValue, value, UInt8.ofNat_toNat]
    rfl

theorem decode_encodeBytes (bytes : List UInt8) : decode (encodeBytes bytes) = bytes := by
  induction bytes with
  | nil => rfl
  | cons b bytes ih =>
    rw [encodeBytes, List.flatMap_cons, decode_encodeByte]
    exact congrArg (b :: ·) ih

theorem decode_encode (s : String) : decode (encode s).toList = s.toByteArray.data.toList := by
  rw [encode, String.toList_ofList, decode_encodeBytes, toList_toByteArray]

theorem encode_injective : Function.Injective encode := by
  intro s t same
  have bytes := congrArg (fun text => decode text.toList) same
  simp only [decode_encode] at bytes
  exact String.toByteArray_inj.mp (ByteArray.ext (Array.ext' bytes))

end PercentEncoding
end DocAnswers.Text
