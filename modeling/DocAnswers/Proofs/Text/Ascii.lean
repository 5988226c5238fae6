import DocAnswers.Proofs.Text.Cut
import DocAnswers.Proofs.Text.Utf8

/-! Bytes below 80 stand for themselves wherever they are. So text may be cut at the characters that they
are before or after it is read from its bytes. -/
namespace DocAnswers.Text.Utf8

theorem high_of_mem_tail (bytes : String.utf8EncodeChar c = b :: tail) (member : x ∈ tail) :
    0x80 ≤ x.toNat := by
  have inside {low high : UInt8} {bs : List UInt8} (goOn : GoOn low high bs) (least : 0x80 ≤ low.toNat)
      (member : x ∈ bs) : 0x80 ≤ x.toNat := by
    induction bs generalizing low high with
    | nil => contradiction
    | cons b bs ih =>
      rcases List.mem_cons.mp member with rfl | later
      · exact Nat.le_trans least (UInt8.le_iff_toNat_le.mp goOn.1)
      · exact ih goOn.2.2 (by decide) later
  rcases encode_cases c with ⟨a, -, single⟩ | ⟨a, tail', l, long, leads, -, goOn⟩
  · obtain ⟨-, rfl⟩ := List.cons.inj (bytes.symm.trans single)
    contradiction
  · obtain ⟨-, rfl⟩ := List.cons.inj (bytes.symm.trans long)
    have least : 0x80 ≤ l.low.toNat := by cases leads <;> decide
    exact inside goOn least member

section Ascii
variable {a : UInt8} {start bs more : List UInt8} {cs ds : List Char}

theorem not_isStart_concat (some : start ≠ []) (ascii : a.toNat < 0x80) : ¬IsStart (start ++ [a]) := by
  rintro ⟨c, more, -, bytes⟩
  cases start with
  | nil => contradiction
  | cons b start =>
    have high : 0x80 ≤ a.toNat := high_of_mem_tail (by simpa using bytes) (by simp)
    omega

/-- What is broken off before such a byte is broken off there in any case. -/
theorem Broken.append_ascii (broken : Broken start bs) (ascii : a.toNat < 0x80) (more : List UInt8) :
    Broken start (bs ++ a :: more) where
  ne_nil := broken.ne_nil
  start := broken.start
  not_prefix c starts := by
    rw [← List.append_assoc] at starts
    by_cases long : (start ++ bs).length < (String.utf8EncodeChar c).length
    · obtain ⟨_, ⟨⟩, rest, bytes⟩ := exists_of_prefix_append starts long
      cases start with
      | nil => exact broken.ne_nil rfl
      | cons b start =>
        have high : 0x80 ≤ a.toNat := high_of_mem_tail (by simpa using bytes.symm) (by simp)
        omega
    · have inside := List.prefix_of_prefix_length_le starts (List.prefix_append _ _) (by omega)
      exact broken.not_prefix c inside
  longest x next := by
    cases bs with
    | nil =>
      obtain rfl : a = x := Option.some.inj next
      exact not_isStart_concat broken.ne_nil ascii
    | cons b bs => exact broken.longest x next

theorem Decodes.append_ascii (front : Decodes bs cs) (ascii : a.toNat < 0x80) (back : Decodes more ds) :
    Decodes (bs ++ a :: more) (cs ++ Char.ofNat a.toNat :: ds) := by
  induction front with
  | nil =>
    have single := Decodes.character (Char.ofNat a.toNat) back
    rwa [encode_ascii ascii] at single
  | character c _ ih =>
    rw [List.append_assoc]
    exact .character c ih
  | broken broken _ ih =>
    rw [List.append_assoc]
    exact .broken (broken.append_ascii ascii more) ih

theorem decode_append_ascii (ascii : a.toNat < 0x80) (bs more : List UInt8) :
    decode (bs ++ a :: more) = decode bs ++ Char.ofNat a.toNat :: decode more :=
  ((decodes_iff _ _).mp ((decodes_decode bs).append_ascii ascii (decodes_decode more))).symm

theorem Decodes.exists_cons (decodes : Decodes bs (c :: cs)) (own : c ≠ replacement) :
    ∃ more, bs = String.utf8EncodeChar c ++ more ∧ Decodes more cs := by
  generalize is : c :: cs = ds at decodes
  cases decodes with
  | nil => contradiction
  | character d later =>
    obtain ⟨rfl, rfl⟩ := List.cons.inj is
    exact ⟨_, rfl, later⟩
  | broken _ _ => exact absurd (List.cons.inj is).1 own

theorem Decodes.exists_append (decodes : Decodes bs (cs ++ ds)) :
    ∃ front more, bs = front ++ more ∧ Decodes more ds := by
  induction cs generalizing bs with
  | nil => exact ⟨[], bs, rfl, decodes⟩
  | cons c cs ih =>
    generalize is : c :: cs ++ ds = es at decodes
    cases decodes with
    | nil => contradiction
    | character d later | broken _ later =>
      obtain ⟨-, rfl⟩ := List.cons.inj is
      obtain ⟨front, more, rfl, rest⟩ := ih later
      exact ⟨_ ++ front, more, (List.append_assoc _ _ _).symm, rest⟩

/-- Where a character other than the replacement is read, its bytes are. -/
theorem exists_of_decode_eq (is : decode bs = cs ++ c :: ds) (own : c ≠ replacement) :
    ∃ front more, bs = front ++ (String.utf8EncodeChar c ++ more) ∧ decode more = ds := by
  obtain ⟨front, behind, rfl, decodes⟩ := Decodes.exists_append ((decodes_iff bs _).mpr is.symm)
  obtain ⟨more, rfl, rest⟩ := decodes.exists_cons own
  exact ⟨front, more, rfl, ((decodes_iff _ _).mp rest).symm⟩

/-- Such a byte is read wherever it is, and nothing else is read as it. -/
theorem mem_decode_iff (ascii : a.toNat < 0x80) (bytes : List UInt8) :
    Char.ofNat a.toNat ∈ decode bytes ↔ a ∈ bytes := by
  constructor
  · intro member
    obtain ⟨cs, ds, is⟩ := List.append_of_mem member
    have own : Char.ofNat a.toNat ≠ replacement := fun same => by
      have number := congrArg (·.val.toNat) same
      rw [toNat_ofNat (by omega)] at number
      exact absurd (number ▸ ascii : replacement.val.toNat < 0x80) (by decide)
    obtain ⟨front, more, rfl, -⟩ := exists_of_decode_eq is own
    simp [encode_ascii ascii]
  · intro member
    obtain ⟨front, back, rfl⟩ := List.append_of_mem member
    simp [decode_append_ascii ascii]

theorem cut_decode (ascii : a.toNat < 0x80) (bytes : List UInt8) :
    cut (· == Char.ofNat a.toNat) (decode bytes) = (cut (· == a) bytes).map decode := by
  induction size : bytes.length using Nat.strongRecOn generalizing bytes with
  | ind n ih =>
    subst size
    by_cases marked : a ∈ bytes
    · obtain ⟨front, back, rfl⟩ := List.append_of_mem marked
      rw [decode_append_ascii ascii, cut_append_mark, cut_append_mark, List.map_append,
        ih _ (by simp) front rfl, ih _ (by simp; omega) back rfl]
    · rw [cut_eq_singleton_of_not_mem marked,
        cut_eq_singleton_of_not_mem (mt (mem_decode_iff ascii bytes).mp marked)]
      rfl

theorem cut_encode (ascii : a.toNat < 0x80) (cs : List Char) :
    cut (· == a) (encode cs) = (cut (· == Char.ofNat a.toNat) cs).map encode := by
  induction cs with
  | nil => rfl
  | cons c cs ih =>
    rw [encode_cons]
    by_cases mark : c = Char.ofNat a.toNat
    · rw [mark, encode_ascii ascii, List.singleton_append, cut, cut, ih]
      simp
      rfl
    · have whole : ∀ b ∈ String.utf8EncodeChar c, (b == a) = false := by
        intro b member
        refine beq_false_of_ne fun same => mark ?_
        have inside := (mem_decode_iff ascii (encode [c])).mpr (by simpa [encode, ← same] using member)
        rw [decode_encode] at inside
        exact (List.mem_singleton.mp inside).symm
      obtain ⟨piece, pieces, split⟩ :=
        List.exists_cons_of_ne_nil (cut_ne_nil (· == Char.ofNat a.toNat) cs)
      have own := cut_cons (d := c) (by simpa using mark) split
      rw [split, List.map_cons] at ih
      rw [cut_append whole ih, own, List.map_cons, encode_cons]

theorem head?_encode (ascii : a.toNat < 0x80) (cs : List Char) :
    (encode cs).head? = some a ↔ cs.head? = some (Char.ofNat a.toNat) := by
  simp only [List.head?_eq_some_iff]
  constructor
  · rintro ⟨bs, is⟩
    have same := congrArg decode is
    rw [decode_encode] at same
    exact ⟨decode bs, same.trans (decode_append_ascii ascii [] bs)⟩
  · rintro ⟨ds, rfl⟩
    exact ⟨encode ds, by rw [encode_cons, encode_ascii ascii, List.singleton_append]⟩

theorem getLast?_encode (ascii : a.toNat < 0x80) (cs : List Char) :
    (encode cs).getLast? = some a ↔ cs.getLast? = some (Char.ofNat a.toNat) := by
  simp only [List.getLast?_eq_some_iff]
  constructor
  · rintro ⟨bs, is⟩
    have same := congrArg decode is
    rw [decode_encode] at same
    exact ⟨decode bs, same.trans (decode_append_ascii ascii bs [])⟩
  · rintro ⟨ds, rfl⟩
    exact ⟨encode ds, by rw [encode_append, encode_cons, encode_ascii ascii]; rfl⟩

end Ascii

theorem decode_eq_nil_iff (bytes : List UInt8) : decode bytes = [] ↔ bytes = [] := by
  constructor
  · intro none
    have decodes := decodes_decode bytes
    rw [none] at decodes
    cases decodes
    rfl
  · rintro rfl
    rfl

/-! What is left of bytes when they are read as text -/

/-- Bytes with everything ill-formed in them replaced. -/
def mended (bytes : List UInt8) : List UInt8 := encode (decode bytes)

/-- Only what is no text is changed. -/
theorem mended_eq_self_iff (bytes : List UInt8) : mended bytes = bytes ↔ isValid bytes = true :=
  (isValid_iff_encode_decode bytes).symm

section Mended
variable {a : UInt8} {bs as more : List UInt8}

theorem mended_append_ascii (ascii : a.toNat < 0x80) (bs more : List UInt8) :
    mended (bs ++ a :: more) = mended bs ++ a :: mended more := by
  rw [mended, decode_append_ascii ascii, encode_append, encode_cons, encode_ascii ascii]
  rfl

theorem mended_cons_ascii (ascii : a.toNat < 0x80) (more : List UInt8) :
    mended (a :: more) = a :: mended more := mended_append_ascii ascii [] more

theorem isValid_append_ascii (ascii : a.toNat < 0x80) (valid : isValid bs = true)
    (valid' : isValid more = true) : isValid (bs ++ a :: more) = true := by
  rw [← mended_eq_self_iff] at *
  rw [mended_append_ascii ascii, valid, valid']

theorem mended_of_ascii (ascii : ∀ a ∈ as, a.toNat < 0x80) : mended as = as := by
  induction as with
  | nil => rfl
  | cons a as ih =>
    obtain ⟨first, later⟩ := List.forall_mem_cons.mp ascii
    rw [mended_cons_ascii first, ih later]

theorem mended_eq_nil_iff (bs : List UInt8) : mended bs = [] ↔ bs = [] := by
  rw [← decode_eq_nil_iff bs]
  exact ⟨fun none => encode_injective none, fun none => congrArg encode none⟩

theorem mem_mended_iff (ascii : a.toNat < 0x80) (bs : List UInt8) : a ∈ mended bs ↔ a ∈ bs := by
  rw [← mem_decode_iff ascii, mended, decode_encode, mem_decode_iff ascii]

/-- Only bytes below 80 come out as such bytes. -/
theorem mended_eq_iff (ascii : ∀ a ∈ as, a.toNat < 0x80) : mended bs = as ↔ bs = as := by
  constructor
  · intro same
    induction as generalizing bs with
    | nil => exact (mended_eq_nil_iff bs).mp same
    | cons a as ih =>
      obtain ⟨first, later⟩ := List.forall_mem_cons.mp ascii
      have inside : a ∈ bs := (mem_mended_iff first bs).mp (same ▸ List.mem_cons_self)
      obtain ⟨front, back, rfl, fresh⟩ := List.eq_append_cons_of_mem inside
      rw [mended_append_ascii first] at same
      cases ends : mended front with
      | nil =>
        rw [ends] at same
        rw [(mended_eq_nil_iff front).mp ends, ih later (List.cons.inj same).2]
        rfl
      | cons b rest =>
        rw [ends] at same
        obtain rfl := (List.cons.inj same).1
        exact absurd ((mem_mended_iff first front).mp (ends ▸ List.mem_cons_self)) fresh
  · rintro rfl
    exact mended_of_ascii ascii

end Mended
end DocAnswers.Text.Utf8
