import DocAnswers.Text.Utf8
import Mathlib.Data.List.Basic

/-! What bytes are read as, told by the characters whose bytes they are and not by the table of leads.
Where a character stands it is read. Elsewhere the longest start of a character, or one byte if there
is no start, is read as one replacement character. -/
namespace DocAnswers.Text.Utf8

/-! The bytes of one character -/

/-- The leads, class by class. -/
inductive Leads : UInt8 → Lead → Prop where
  | one {b : UInt8} (least : 0xC2 ≤ b.toNat) (greatest : b.toNat ≤ 0xDF) : Leads b ⟨1, 0x80, 0xBF⟩
  | leastOfTwo {b : UInt8} (is : b.toNat = 0xE0) : Leads b ⟨2, 0xA0, 0xBF⟩
  | two {b : UInt8} (least : 0xE1 ≤ b.toNat) (greatest : b.toNat ≤ 0xEF) (other : b.toNat ≠ 0xED) :
    Leads b ⟨2, 0x80, 0xBF⟩
  | beforeSurrogates {b : UInt8} (is : b.toNat = 0xED) : Leads b ⟨2, 0x80, 0x9F⟩
  | leastOfThree {b : UInt8} (is : b.toNat = 0xF0) : Leads b ⟨3, 0x90, 0xBF⟩
  | three {b : UInt8} (least : 0xF1 ≤ b.toNat) (greatest : b.toNat ≤ 0xF3) : Leads b ⟨3, 0x80, 0xBF⟩
  | greatest {b : UInt8} (is : b.toNat = 0xF4) : Leads b ⟨3, 0x80, 0x8F⟩

theorem leads_of_lead? (leads : lead? b = some l) : Leads b l := by
  simp only [lead?, Bool.and_eq_true, decide_eq_true_eq, beq_iff_eq, UInt8.le_iff_toNat_le,
    ← UInt8.toNat_inj, UInt8.reduceToNat] at leads
  split at leads
  · cases leads
    exact .one (by omega) (by omega)
  split at leads
  · cases leads
    exact .leastOfTwo (by omega)
  split at leads
  · cases leads
    exact .beforeSurrogates (by omega)
  split at leads
  · cases leads
    exact .two (by omega) (by omega) (by omega)
  split at leads
  · cases leads
    exact .leastOfThree (by omega)
  split at leads
  · cases leads
    exact .three (by omega) (by omega)
  split at leads
  · cases leads
    exact .greatest (by omega)
  · contradiction

theorem Leads.lead? (leads : Leads b l) : lead? b = some l := by
  simp only [Utf8.lead?, Bool.and_eq_true, decide_eq_true_eq, beq_iff_eq, UInt8.le_iff_toNat_le,
    ← UInt8.toNat_inj, UInt8.reduceToNat]
  cases leads with
  | one => rw [if_pos (by omega)]
  | leastOfTwo => rw [if_neg (by omega), if_pos (by omega)]
  | beforeSurrogates => rw [if_neg (by omega), if_neg (by omega), if_pos (by omega)]
  | two => rw [if_neg (by omega), if_neg (by omega), if_neg (by omega), if_pos (by omega)]
  | leastOfThree =>
    rw [if_neg (by omega), if_neg (by omega), if_neg (by omega), if_neg (by omega), if_pos (by omega)]
  | three =>
    rw [if_neg (by omega), if_neg (by omega), if_neg (by omega), if_neg (by omega), if_neg (by omega),
      if_pos (by omega)]
  | greatest =>
    rw [if_neg (by omega), if_neg (by omega), if_neg (by omega), if_neg (by omega), if_neg (by omega),
      if_neg (by omega), if_pos (by omega)]

/-- Bytes that go on with a character: the first between two bounds, the others from 80 to BF. -/
def GoOn (low high : UInt8) : List UInt8 → Prop
  | [] => True
  | b :: bs => low ≤ b ∧ b ≤ high ∧ GoOn 0x80 0xBF bs

theorem toNat_ofNat {n : Nat} (valid : n < 0xD800 ∨ 0xDFFF < n ∧ n < 0x110000) :
    (Char.ofNat n).val.toNat = n := by
  rw [Char.ofNat, dif_pos valid]
  rfl

theorem ofNat_eq {b : UInt8} {n : Nat} (same : n = b.toNat) : UInt8.ofNat n = b := by
  rw [same, UInt8.ofNat_toNat]

section Encode
variable {b t u v : UInt8}

theorem encode_two (lead : 0xC2 ≤ b.toNat ∧ b.toNat ≤ 0xDF) (first : 0x80 ≤ t.toNat ∧ t.toNat ≤ 0xBF) :
    String.utf8EncodeChar (Char.ofNat (codePoint 1 b [t])) = [b, t] := by
  have number : codePoint 1 b [t] = b.toNat % 32 * 64 + t.toNat % 64 := rfl
  rw [String.utf8EncodeChar, toNat_ofNat (by omega), number]
  rw [if_neg (by omega), if_pos (by omega), ofNat_eq (b := b) (by omega), ofNat_eq (b := t) (by omega)]

theorem encode_three (lead : 0xE0 ≤ b.toNat ∧ b.toNat ≤ 0xEF) (first : 0x80 ≤ t.toNat ∧ t.toNat ≤ 0xBF)
    (second : 0x80 ≤ u.toNat ∧ u.toNat ≤ 0xBF) (long : b.toNat = 0xE0 → 0xA0 ≤ t.toNat)
    (noSurrogate : b.toNat = 0xED → t.toNat ≤ 0x9F) :
    String.utf8EncodeChar (Char.ofNat (codePoint 2 b [t, u])) = [b, t, u] := by
  have number : codePoint 2 b [t, u] = (b.toNat % 16 * 64 + t.toNat % 64) * 64 + u.toNat % 64 := rfl
  rw [String.utf8EncodeChar, toNat_ofNat (by omega), number]
  rw [if_neg (by omega), if_neg (by omega), if_pos (by omega), ofNat_eq (b := b) (by omega),
    ofNat_eq (b := t) (by omega), ofNat_eq (b := u) (by omega)]

theorem encode_four (lead : 0xF0 ≤ b.toNat ∧ b.toNat ≤ 0xF4) (first : 0x80 ≤ t.toNat ∧ t.toNat ≤ 0xBF)
    (second : 0x80 ≤ u.toNat ∧ u.toNat ≤ 0xBF) (third : 0x80 ≤ v.toNat ∧ v.toNat ≤ 0xBF)
    (long : b.toNat = 0xF0 → 0x90 ≤ t.toNat) (small : b.toNat = 0xF4 → t.toNat ≤ 0x8F) :
    String.utf8EncodeChar (Char.ofNat (codePoint 3 b [t, u, v])) = [b, t, u, v] := by
  have number : codePoint 3 b [t, u, v] =
      ((b.toNat % 8 * 64 + t.toNat % 64) * 64 + u.toNat % 64) * 64 + v.toNat % 64 := rfl
  rw [String.utf8EncodeChar, toNat_ofNat (by omega), number]
  rw [if_neg (by omega), if_neg (by omega), if_neg (by omega), ofNat_eq (b := b) (by omega),
    ofNat_eq (b := t) (by omega), ofNat_eq (b := u) (by omega), ofNat_eq (b := v) (by omega)]

end Encode

/-- A lead and as many bytes behind it as it asks for. -/
structure Long (b : UInt8) (tail : List UInt8) (l : Lead) : Prop where
  leads : Leads b l
  length : tail.length = l.following
  goOn : GoOn l.low l.high tail

theorem Long.encode (long : Long b tail l) :
    String.utf8EncodeChar (Char.ofNat (codePoint l.following b tail)) = b :: tail := by
  obtain ⟨leads, length, goOn⟩ := long
  have two (following : tail.length = 2) : ∃ t u, tail = [t, u] := List.length_eq_two.mp following
  have three (following : tail.length = 3) : ∃ t u v, tail = [t, u, v] := List.length_eq_three.mp following
  cases leads with
  | one =>
    obtain ⟨t, rfl⟩ := List.length_eq_one_iff.mp length
    simp only [GoOn, UInt8.le_iff_toNat_le, UInt8.reduceToNat] at goOn
    exact encode_two (by omega) (by omega)
  | leastOfTwo | two | beforeSurrogates =>
    obtain ⟨t, u, rfl⟩ := two length
    simp only [GoOn, UInt8.le_iff_toNat_le, UInt8.reduceToNat] at goOn
    exact encode_three (by omega) (by omega) (by omega) (by omega) (by omega)
  | leastOfThree | three | greatest =>
    obtain ⟨t, u, v, rfl⟩ := three length
    simp only [GoOn, UInt8.le_iff_toNat_le, UInt8.reduceToNat] at goOn
    exact encode_four (by omega) (by omega) (by omega) (by omega) (by omega) (by omega)

section Leads
variable {b t : UInt8} (first : 0x80 ≤ t.toNat ∧ t.toNat ≤ 0xBF)
include first

theorem exists_leads_two (lead : 0xE0 ≤ b.toNat ∧ b.toNat ≤ 0xEF)
    (long : b.toNat = 0xE0 → 0xA0 ≤ t.toNat) (noSurrogate : b.toNat = 0xED → t.toNat ≤ 0x9F) :
    ∃ l, Leads b l ∧ l.following = 2 ∧ l.low ≤ t ∧ t ≤ l.high := by
  simp only [UInt8.le_iff_toNat_le]
  by_cases least : b.toNat = 0xE0
  · exact ⟨_, .leastOfTwo least, rfl, long least, first.2⟩
  by_cases before : b.toNat = 0xED
  · exact ⟨_, .beforeSurrogates before, rfl, first.1, noSurrogate before⟩
  · exact ⟨_, .two (by omega) lead.2 before, rfl, first⟩

theorem exists_leads_three (lead : 0xF0 ≤ b.toNat ∧ b.toNat ≤ 0xF4)
    (long : b.toNat = 0xF0 → 0x90 ≤ t.toNat) (small : b.toNat = 0xF4 → t.toNat ≤ 0x8F) :
    ∃ l, Leads b l ∧ l.following = 3 ∧ l.low ≤ t ∧ t ≤ l.high := by
  simp only [UInt8.le_iff_toNat_le]
  by_cases least : b.toNat = 0xF0
  · exact ⟨_, .leastOfThree least, rfl, long least, first.2⟩
  by_cases greatest : b.toNat = 0xF4
  · exact ⟨_, .greatest greatest, rfl, first.1, small greatest⟩
  · exact ⟨_, .three (by omega) (by omega), rfl, first⟩

end Leads

/-- A character has one byte, or it has a lead and the bytes that the lead asks for. -/
theorem encode_cases (c : Char) :
    (∃ b : UInt8, b.toNat < 0x80 ∧ String.utf8EncodeChar c = [b]) ∨
      ∃ b tail l, String.utf8EncodeChar c = b :: tail ∧ Long b tail l := by
  have valid : c.val.toNat < 0xD800 ∨ 0xDFFF < c.val.toNat ∧ c.val.toNat < 0x110000 := c.valid
  rw [String.utf8EncodeChar]
  generalize c.val.toNat = n at valid
  have byte {m : Nat} (small : m < 256) : (UInt8.ofNat m).toNat = m := by
    rw [UInt8.toNat_ofNat', Nat.mod_eq_of_lt small]
  by_cases one : n ≤ 127
  · rw [if_pos one]
    exact .inl ⟨_, by rw [byte (by omega)]; omega, rfl⟩
  right
  rw [if_neg one]
  by_cases two : n ≤ 2047
  · rw [if_pos two]
    have lead := byte (m := n / 64 % 32 + 192) (by omega)
    have first := byte (m := n % 64 + 128) (by omega)
    refine ⟨_, _, _, rfl, .one (by omega) (by omega), rfl, ?_⟩
    simp only [GoOn, UInt8.le_iff_toNat_le, UInt8.reduceToNat, and_true]
    omega
  rw [if_neg two]
  by_cases three : n ≤ 65535
  · rw [if_pos three]
    have lead := byte (m := n / 4096 % 16 + 224) (by omega)
    have first := byte (m := n / 64 % 64 + 128) (by omega)
    have second := byte (m := n % 64 + 128) (by omega)
    obtain ⟨l, leads, following, low, high⟩ :=
      exists_leads_two (b := UInt8.ofNat (n / 4096 % 16 + 224))
        (t := UInt8.ofNat (n / 64 % 64 + 128)) (by omega) (by omega) (by omega) (by omega)
    refine ⟨_, _, l, rfl, leads, following.symm, low, high, ?_⟩
    simp only [GoOn, UInt8.le_iff_toNat_le, UInt8.reduceToNat, and_true]
    omega
  · rw [if_neg three]
    have lead := byte (m := n / 262144 % 8 + 240) (by omega)
    have first := byte (m := n / 4096 % 64 + 128) (by omega)
    have second := byte (m := n / 64 % 64 + 128) (by omega)
    have third := byte (m := n % 64 + 128) (by omega)
    obtain ⟨l, leads, following, low, high⟩ :=
      exists_leads_three (b := UInt8.ofNat (n / 262144 % 8 + 240))
        (t := UInt8.ofNat (n / 4096 % 64 + 128)) (by omega) (by omega) (by omega) (by omega)
    refine ⟨_, _, l, rfl, leads, following.symm, low, high, ?_⟩
    simp only [GoOn, UInt8.le_iff_toNat_le, UInt8.reduceToNat, and_true]
    omega

/-! Where bytes go on with a character and where they break off -/

namespace GoOn

theorem of_append (goOn : GoOn low high (bs ++ more)) : GoOn low high bs := by
  induction bs generalizing low high with
  | nil => trivial
  | cons b bs ih => exact ⟨goOn.1, goOn.2.1, ih goOn.2.2⟩

theorem append_least (goOn : GoOn low high bs) (bounds : low ≤ high) (n : Nat) :
    ∃ more, more.length = n ∧ GoOn low high (bs ++ more) := by
  induction bs generalizing low high with
  | nil =>
    cases n with
    | zero => exact ⟨[], rfl, trivial⟩
    | succ n =>
      have others (n : Nat) : GoOn 0x80 0xBF (List.replicate n 0x80) := by
        induction n with
        | zero => trivial
        | succ n ih => exact ⟨by decide, by decide, ih⟩
      exact ⟨low :: List.replicate n 0x80, by simp, UInt8.le_refl low, bounds, others n⟩
  | cons b bs ih =>
    obtain ⟨more, length, rest⟩ := ih goOn.2.2 (by decide)
    exact ⟨more, length, goOn.1, goOn.2.1, rest⟩

end GoOn

/-- The bytes that go on with a character are taken as far as they go, and no further than needed. -/
theorem continued_spec (n : Nat) (low high : UInt8) (bs : List UInt8) :
    ∃ taken rest, bs = taken ++ rest ∧ continued n low high bs = taken.length ∧ taken.length ≤ n ∧
      GoOn low high taken ∧
      (taken.length < n → ∀ b ∈ rest.head?, ¬GoOn low high (taken ++ [b])) := by
  induction n generalizing low high bs with
  | zero => exact ⟨[], bs, rfl, by rw [continued]; rfl, Nat.le_refl _, trivial, by simp⟩
  | succ n ih =>
    cases bs with
    | nil => exact ⟨[], [], rfl, rfl, Nat.zero_le _, trivial, by simp⟩
    | cons b bs =>
      by_cases inside : low ≤ b ∧ b ≤ high
      · obtain ⟨taken, rest, split, count, most, goOn, ends⟩ := ih 0x80 0xBF bs
        refine ⟨b :: taken, rest, by rw [split]; rfl, ?_, Nat.succ_le_succ most, ⟨inside.1, inside.2, goOn⟩, ?_⟩
        · simp [continued, inside, count]
        · intro fewer c first more
          exact ends (Nat.lt_of_succ_lt_succ fewer) c first more.2.2
      · refine ⟨[], b :: bs, rfl, ?_, Nat.zero_le _, trivial, ?_⟩
        · simp [continued, inside]
        · rintro - c ⟨⟩ goOn
          exact inside ⟨goOn.1, goOn.2.1⟩

/-! The rule -/

/-- Whether some bytes are the start of a character that goes on behind them. -/
def IsStart (bs : List UInt8) : Prop := ∃ c more, more ≠ [] ∧ String.utf8EncodeChar c = bs ++ more

/-- A maximal ill-formed sequence and what is behind it: there is no character where it begins, and it
is the longest start of one, or one byte if there is no start. -/
structure Broken (bs rest : List UInt8) : Prop where
  ne_nil : bs ≠ []
  not_prefix : ∀ c, ¬String.utf8EncodeChar c <+: bs ++ rest
  start : IsStart bs ∨ bs.length = 1
  longest : ∀ b ∈ rest.head?, ¬IsStart (bs ++ [b])

/-- Bytes and the characters that they are read as. -/
inductive Decodes : List UInt8 → List Char → Prop where
  | nil : Decodes [] []
  | character (c : Char) (later : Decodes bs cs) : Decodes (String.utf8EncodeChar c ++ bs) (c :: cs)
  | broken (broken : Broken start bs) (later : Decodes bs cs) : Decodes (start ++ bs) (replacement :: cs)

theorem Leads.low_le_high (leads : Leads b l) : l.low ≤ l.high := by
  cases leads <;> decide

theorem isStart_cons_iff :
    IsStart (b :: bs) ↔ ∃ l, Leads b l ∧ bs.length < l.following ∧ GoOn l.low l.high bs := by
  constructor
  · rintro ⟨c, more, some, bytes⟩
    have length := List.length_pos_iff.mpr some
    rcases encode_cases c with ⟨a, -, single⟩ | ⟨a, tail, l, long, leads, following, goOn⟩
    · rw [single] at bytes
      have := congrArg List.length bytes
      simp only [List.length_append, List.length_cons, List.length_nil] at this
      omega
    · rw [long] at bytes
      obtain ⟨rfl, rfl⟩ : a = b ∧ tail = bs ++ more := List.cons.inj bytes
      refine ⟨l, leads, ?_, goOn.of_append⟩
      rw [List.length_append] at following
      omega
  · rintro ⟨l, leads, short, goOn⟩
    obtain ⟨more, length, whole⟩ := goOn.append_least leads.low_le_high (l.following - bs.length)
    have long : Long b (bs ++ more) l := ⟨leads, by rw [List.length_append]; omega, whole⟩
    exact ⟨_, more, List.length_pos_iff.mp (by omega), long.encode⟩

theorem IsStart.of_append (isStart : IsStart (bs ++ more)) : IsStart bs := by
  obtain ⟨c, rest, some, bytes⟩ := isStart
  exact ⟨c, more ++ rest, by simp [some], by simpa using bytes⟩

/-- Where one character begins no other one does. -/
theorem eq_of_prefix (first : String.utf8EncodeChar c <+: bytes)
    (second : String.utf8EncodeChar d <+: bytes) : c = d := by
  have single {c d : Char} (starts : String.utf8EncodeChar c <+: String.utf8EncodeChar d) : c = d := by
    obtain ⟨rest, whole⟩ := starts
    have whole := congrArg List.toByteArray whole
    rw [List.toByteArray_append, ← List.utf8Encode_singleton, ← List.utf8Encode_singleton] at whole
    simpa using List.isPrefix_of_utf8Encode_append_eq_utf8Encode _ whole
  rcases List.prefix_or_prefix_of_prefix first second with starts | starts
  · exact single starts
  · exact (single starts).symm

theorem encode_ascii {b : UInt8} (ascii : b.toNat < 0x80) :
    String.utf8EncodeChar (Char.ofNat b.toNat) = [b] := by
  rw [String.utf8EncodeChar, toNat_ofNat (by omega), if_pos (by omega), UInt8.ofNat_toNat]

theorem exists_of_prefix_append {bs taken rest : List UInt8} (starts : bs <+: taken ++ rest)
    (long : taken.length < bs.length) : ∃ b ∈ rest.head?, taken ++ [b] <+: bs := by
  obtain ⟨behind, whole⟩ := starts
  rcases List.append_eq_append_iff.mp whole with ⟨middle, rfl, -⟩ | ⟨middle, rfl, rfl⟩
  · rw [List.length_append] at long
    omega
  · cases middle with
    | nil => simp at long
    | cons b middle => exact ⟨b, rfl, middle, by simp⟩

section Front
variable {b : UInt8} (high : ¬b.toNat < 0x80)
include high

theorem exists_long_of_prefix (starts : String.utf8EncodeChar c <+: b :: bs) :
    ∃ tail l, Long b tail l ∧ tail <+: bs := by
  rcases encode_cases c with ⟨a, low, single⟩ | ⟨a, tail, l, bytes, long⟩
  · rw [single] at starts
    obtain rfl := (List.cons_prefix_cons.mp starts).1
    exact absurd low high
  · rw [bytes] at starts
    obtain ⟨rfl, within⟩ := List.cons_prefix_cons.mp starts
    exact ⟨tail, l, long, within⟩

theorem broken_of_lead?_none (leads : lead? b = none) (bs : List UInt8) : Broken [b] bs where
  ne_nil := List.cons_ne_nil _ _
  not_prefix c starts := by
    obtain ⟨tail, l, long, -⟩ := exists_long_of_prefix high starts
    rw [long.leads.lead?] at leads
    contradiction
  start := .inr rfl
  longest c _ isStart := by
    obtain ⟨l, leads', -⟩ := isStart_cons_iff.mp isStart
    rw [leads'.lead?] at leads
    contradiction

theorem broken_of_short {taken rest : List UInt8} (leads : Leads b l)
    (short : taken.length < l.following) (goOn : GoOn l.low l.high taken)
    (ends : ∀ c ∈ rest.head?, ¬GoOn l.low l.high (taken ++ [c])) : Broken (b :: taken) rest := by
  have same {l' : Lead} (leads' : Leads b l') : l' = l :=
    Option.some.inj (leads'.lead?.symm.trans leads.lead?)
  refine ⟨List.cons_ne_nil _ _, ?_, .inl (isStart_cons_iff.mpr ⟨l, leads, short, goOn⟩), ?_⟩
  · intro c starts
    obtain ⟨tail, l', long, within⟩ := exists_long_of_prefix high starts
    obtain rfl := same long.leads
    have longer : taken.length < tail.length := by rw [long.length]; exact short
    obtain ⟨x, next, more, rfl⟩ := exists_of_prefix_append within longer
    exact ends x next long.goOn.of_append
  · intro x next isStart
    obtain ⟨l', leads', -, goOn'⟩ := isStart_cons_iff.mp isStart
    obtain rfl := same leads'
    exact ends x next goOn'

end Front

/-- The front of some bytes is a character, or a maximal ill-formed sequence. -/
theorem front_spec (b : UInt8) (bs : List UInt8) : ∃ taken rest, bs = taken ++ rest ∧
    ((∃ c, front b bs = (some c, taken.length) ∧ String.utf8EncodeChar c = b :: taken) ∨
      front b bs = (none, taken.length) ∧ Broken (b :: taken) rest) := by
  by_cases ascii : b < 0x80
  · refine ⟨[], bs, rfl, .inl ⟨Char.ofNat b.toNat, by rw [front, if_pos ascii]; rfl, ?_⟩⟩
    exact encode_ascii (UInt8.lt_iff_toNat_lt.mp ascii)
  have high : ¬b.toNat < 0x80 := fun low => ascii (UInt8.lt_iff_toNat_lt.mpr low)
  cases leads : lead? b with
  | none =>
    refine ⟨[], bs, rfl, .inr ⟨?_, broken_of_lead?_none high leads bs⟩⟩
    simp [front, ascii, leads]
  | some l =>
    obtain ⟨taken, rest, rfl, count, most, goOn, ends⟩ :=
      continued_spec l.following l.low l.high bs
    refine ⟨taken, rest, rfl, ?_⟩
    by_cases whole : taken.length = l.following
    · have long : Long b taken l := ⟨leads_of_lead? leads, whole, goOn⟩
      refine .inl ⟨_, ?_, long.encode⟩
      simp [front, ascii, leads, count, whole]
    · have short : taken.length < l.following := Nat.lt_of_le_of_ne most whole
      refine .inr ⟨?_, broken_of_short high (leads_of_lead? leads) short goOn (ends short)⟩
      simp [front, ascii, leads, count, whole]

theorem Broken.unique (first : Broken bs rest) (second : Broken bs' rest')
    (same : bs ++ rest = bs' ++ rest') : bs = bs' := by
  -- The shorter of the two would not be the longest start.
  have notShorter {bs rest middle rest' : List UInt8} {b : UInt8} (first : Broken bs rest)
      (second : Broken (bs ++ b :: middle) rest') (next : b ∈ rest.head?) : False := by
    rcases second.start with isStart | single
    · rw [List.append_cons] at isStart
      exact first.longest b next isStart.of_append
    · have := List.length_pos_iff.mpr first.ne_nil
      rw [List.length_append, List.length_cons] at single
      omega
  rcases List.append_eq_append_iff.mp same with ⟨middle, rfl, rfl⟩ | ⟨middle, rfl, rfl⟩
  · cases middle with
    | nil => exact (List.append_nil _).symm
    | cons b middle => exact (notShorter first second rfl).elim
  · cases middle with
    | nil => exact List.append_nil _
    | cons b middle => exact (notShorter second first rfl).elim

theorem front_character (bytes : String.utf8EncodeChar c = b :: tail) (bs : List UInt8) :
    front b (tail ++ bs) = (some c, tail.length) := by
  obtain ⟨taken, rest, whole, ⟨d, is, bytes'⟩ | ⟨-, broken⟩⟩ := front_spec b (tail ++ bs)
  · have starts : String.utf8EncodeChar c <+: b :: (tail ++ bs) := ⟨bs, by rw [bytes]; rfl⟩
    have starts' : String.utf8EncodeChar d <+: b :: (tail ++ bs) := ⟨rest, by rw [bytes', whole]; rfl⟩
    obtain rfl := eq_of_prefix starts starts'
    obtain ⟨-, rfl⟩ := List.cons.inj (bytes.symm.trans bytes')
    exact is
  · refine absurd ⟨bs, ?_⟩ (broken.not_prefix c)
    rw [bytes, List.cons_append, List.cons_append, whole]

theorem front_broken (broken : Broken (b :: tail) bs) : front b (tail ++ bs) = (none, tail.length) := by
  obtain ⟨taken, rest, whole, ⟨d, -, bytes⟩ | ⟨is, broken'⟩⟩ := front_spec b (tail ++ bs)
  · refine absurd ⟨rest, ?_⟩ (broken.not_prefix d)
    rw [bytes, List.cons_append, List.cons_append, whole]
  · obtain ⟨-, rfl⟩ := List.cons.inj (broken.unique broken' (by
      rw [List.cons_append, List.cons_append, whole]))
    exact is

theorem frontsAfter_eq (n : Nat) (bs : List UInt8) : frontsAfter n bs = fronts (bs.drop n) := by
  induction bs generalizing n with
  | nil => cases n <;> rfl
  | cons b bs ih =>
    cases n with
    | zero => rfl
    | succ n => exact ih n

theorem fronts_cons (b : UInt8) (bs : List UInt8) :
    fronts (b :: bs) = (front b bs).1 :: fronts (bs.drop (front b bs).2) := by
  rw [← frontsAfter_eq]
  rfl

/-- Bytes are read one front after the other. -/
@[elab_as_elim]
theorem frontwise {motive : List UInt8 → Prop} (nil : motive [])
    (cons : ∀ b bs, motive (bs.drop (front b bs).2) → motive (b :: bs)) (bytes : List UInt8) :
    motive bytes := by
  induction size : bytes.length using Nat.strongRecOn generalizing bytes with
  | ind n ih =>
    cases bytes with
    | nil => exact nil
    | cons b bs =>
      refine cons b bs (ih _ ?_ _ rfl)
      rw [← size, List.length_drop, List.length_cons]
      omega

theorem fronts_character (c : Char) (bs : List UInt8) :
    fronts (String.utf8EncodeChar c ++ bs) = some c :: fronts bs := by
  cases bytes : String.utf8EncodeChar c with
  | nil => exact absurd bytes String.utf8EncodeChar_ne_nil
  | cons b tail => rw [List.cons_append, fronts_cons, front_character bytes, List.drop_left]

theorem fronts_broken (broken : Broken start bs) : fronts (start ++ bs) = none :: fronts bs := by
  cases start with
  | nil => exact absurd rfl broken.ne_nil
  | cons b tail => rw [List.cons_append, fronts_cons, front_broken broken, List.drop_left]

theorem decodes_decode (bytes : List UInt8) : Decodes bytes (decode bytes) := by
  rw [decode]
  induction bytes using frontwise with
  | nil => exact .nil
  | cons b bs ih =>
    obtain ⟨taken, rest, rfl, ⟨c, is, bytes⟩ | ⟨is, broken⟩⟩ := front_spec b bs
    · rw [is, List.drop_left] at ih
      rw [← List.cons_append, ← bytes, fronts_character]
      exact .character c ih
    · rw [is, List.drop_left] at ih
      rw [← List.cons_append, fronts_broken broken]
      exact .broken broken ih

/-- Bytes are read by the rule, which leaves no choice. -/
theorem decodes_iff (bytes : List UInt8) (cs : List Char) : Decodes bytes cs ↔ cs = decode bytes := by
  constructor
  · intro decodes
    rw [decode]
    induction decodes with
    | nil => rfl
    | character c _ ih =>
      rw [fronts_character, ih]
      rfl
    | broken broken _ ih =>
      rw [fronts_broken broken, ih]
      rfl
  · rintro rfl
    exact decodes_decode bytes

/-! Well-formed bytes -/

theorem encode_cons (c : Char) (cs : List Char) :
    encode (c :: cs) = String.utf8EncodeChar c ++ encode cs := List.flatMap_cons

theorem encode_append (cs ds : List Char) : encode (cs ++ ds) = encode cs ++ encode ds :=
  List.flatMap_append

theorem decode_encode (cs : List Char) : decode (encode cs) = cs := by
  induction cs with
  | nil => rfl
  | cons c cs ih =>
    rw [decode] at ih ⊢
    rw [encode_cons, fronts_character, List.map_cons, ih]
    rfl

theorem encode_injective : Function.Injective encode := Function.LeftInverse.injective decode_encode

theorem encode_decode (valid : isValid bytes = true) : encode (decode bytes) = bytes := by
  rw [isValid] at valid
  rw [decode]
  induction bytes using frontwise with
  | nil => rfl
  | cons b bs ih =>
    obtain ⟨taken, rest, rfl, ⟨c, is, bytes⟩ | ⟨is, broken⟩⟩ := front_spec b bs
    · rw [is, List.drop_left] at ih
      rw [← List.cons_append, ← bytes, fronts_character] at valid ⊢
      exact congrArg (String.utf8EncodeChar c ++ ·) (ih valid)
    · rw [← List.cons_append, fronts_broken broken] at valid
      contradiction

theorem isValid_encode (cs : List Char) : isValid (encode cs) = true := by
  rw [isValid]
  induction cs with
  | nil => rfl
  | cons c cs ih =>
    rw [encode_cons, fronts_character]
    exact ih

/-- The bytes of some text are those that come back when they are read. -/
theorem isValid_iff_encode_decode (bytes : List UInt8) :
    isValid bytes = true ↔ encode (decode bytes) = bytes :=
  ⟨encode_decode, fun same => same ▸ isValid_encode (decode bytes)⟩

theorem isValid_iff (bytes : List UInt8) : isValid bytes = true ↔ bytes.toByteArray.IsValidUTF8 := by
  constructor
  · intro valid
    exact ⟨decode bytes, congrArg List.toByteArray (encode_decode valid).symm⟩
  · rintro ⟨cs, is⟩
    rw [List.utf8Encode, List.toByteArray_inj] at is
    exact is ▸ isValid_encode cs

end DocAnswers.Text.Utf8
