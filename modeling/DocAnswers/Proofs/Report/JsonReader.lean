import DocAnswers.Report.Json
import Mathlib.Tactic.SplitIfs

/-! Reading JSON texts. The reader takes every text of the format: values of all kinds, white space
between any two tokens, and all ways of writing a character in a string. The text of a value is read
as that value. -/
namespace DocAnswers.Json

/-- What a JSON text stands for. A number is kept as it is written. -/
inductive Value where
  | null
  | bool (b : Bool)
  | number (text : String)
  | string (text : String)
  | array (items : List Value)
  | object (members : List (String × Value))

namespace Reader

/-- The white space between tokens. -/
def isGap (c : Char) : Bool := c == ' ' || c == '\n' || c == '\r' || c == '\t'

def skip (cs : List Char) : List Char := cs.dropWhile isGap

/-! Characters of strings -/

def hexValue? (c : Char) : Option Nat :=
  if '0' ≤ c && c ≤ '9' then some (c.toNat - 0x30)
  else if 'a' ≤ c && c ≤ 'f' then some (c.toNat - 0x61 + 10)
  else if 'A' ≤ c && c ≤ 'F' then some (c.toNat - 0x41 + 10)
  else none

/-- Four hexadecimal digits. -/
def unit? : List Char → Option (Nat × List Char)
  | a :: b :: c :: d :: rest => do
    let a ← hexValue? a
    let b ← hexValue? b
    let c ← hexValue? c
    let d ← hexValue? d
    return (((a * 16 + b) * 16 + c) * 16 + d, rest)
  | _ => none

/-- The second half of a character that is written in two. -/
def lowHalf? : List Char → Option (Nat × List Char)
  | '\\' :: 'u' :: rest => (unit? rest).filter fun (low, _) => 0xDC00 ≤ low && low < 0xE000
  | _ => none

/-- A character given by its number. -/
def numbered? (cs : List Char) : Option (Char × List Char) := do
  let (first, rest) ← unit? cs
  if 0xD800 ≤ first && first < 0xDC00 then
    let (low, rest) ← lowHalf? rest
    return (Char.ofNat (0x10000 + (first - 0xD800) * 0x400 + (low - 0xDC00)), rest)
  else if 0xDC00 ≤ first && first < 0xE000 then none
  else return (Char.ofNat first, rest)

/-- What may stand behind a backslash for one character. -/
def shorthands : List (Char × Char) :=
  [('"', '"'), ('\\', '\\'), ('/', '/'), ('b', '\x08'), ('f', '\x0c'), ('n', '\n'), ('r', '\r'),
   ('t', '\t')]

/-- A character from behind its backslash. -/
def escaped? : List Char → Option (Char × List Char)
  | [] => none
  | 'u' :: rest => numbered? rest
  | c :: rest => (shorthands.lookup c).map fun meant => (meant, rest)

theorem length_unit?_lt (h : unit? cs = some (n, rest)) : rest.length < cs.length := by
  unfold unit? at h
  split at h
  · simp only [Option.bind_eq_bind, Option.bind_eq_some_iff, Option.pure_def, Option.some.injEq,
      Prod.mk.injEq] at h
    obtain ⟨_, _, _, _, _, _, _, _, _, rfl⟩ := h
    simp only [List.length_cons]
    omega
  · contradiction

theorem length_lowHalf?_lt (h : lowHalf? cs = some (n, rest)) : rest.length < cs.length := by
  unfold lowHalf? at h
  split at h
  · have := length_unit?_lt (Option.filter_eq_some_iff.mp h).1
    simp only [List.length_cons]
    omega
  · contradiction

theorem length_numbered?_lt (h : numbered? cs = some (c, rest)) : rest.length < cs.length := by
  simp only [numbered?, Option.bind_eq_bind, Option.bind_eq_some_iff] at h
  obtain ⟨⟨first, after⟩, read, h⟩ := h
  have shorter := length_unit?_lt read
  dsimp only at h
  split at h
  · obtain ⟨⟨low, behind⟩, second, h⟩ := Option.bind_eq_some_iff.mp h
    have := length_lowHalf?_lt second
    simp only [Option.pure_def, Option.some.injEq, Prod.mk.injEq] at h
    obtain ⟨-, rfl⟩ := h
    omega
  · split at h
    · contradiction
    · simp only [Option.pure_def, Option.some.injEq, Prod.mk.injEq] at h
      obtain ⟨-, rfl⟩ := h
      exact shorter

theorem length_escaped?_lt (h : escaped? cs = some (c, rest)) : rest.length < cs.length := by
  unfold escaped? at h
  split at h
  · contradiction
  · have := length_numbered?_lt h
    simp only [List.length_cons]
    omega
  · obtain ⟨_, -, is⟩ := Option.map_eq_some_iff.mp h
    obtain ⟨-, rfl⟩ := Prod.mk.inj is
    simp

/-- A string from behind its opening quote. -/
def chars? (cs : List Char) : Option (List Char × List Char) :=
  match cs with
  | [] => none
  | '"' :: rest => some ([], rest)
  | '\\' :: rest =>
    match _escape : escaped? rest with
    | none => none
    | some (c, rest) => (chars? rest).map fun (text, rest) => (c :: text, rest)
  | c :: rest =>
    if c.toNat < 0x20 then none
    else (chars? rest).map fun (text, rest) => (c :: text, rest)
termination_by cs.length
decreasing_by
  · have := length_escaped?_lt _escape
    simp only [List.length_cons]
    omega
  · simp

/-! Numbers -/

def digits? (cs : List Char) : Option (List Char × List Char) :=
  let digits := cs.takeWhile Char.isDigit
  if digits.isEmpty then none else some (digits, cs.dropWhile Char.isDigit)

/-- The part before the point, without needless zeros. -/
def whole? : List Char → Option (List Char × List Char)
  | '0' :: rest => some (['0'], rest)
  | cs => digits? cs

def fraction? : List Char → Option (List Char × List Char)
  | '.' :: rest => (digits? rest).map fun (digits, rest) => ('.' :: digits, rest)
  | cs => some ([], cs)

/-- A sign that may stand at the front. -/
def sign (signs cs : List Char) : List Char × List Char :=
  match cs with
  | c :: rest => if signs.contains c then ([c], rest) else ([], c :: rest)
  | [] => ([], [])

def exponent? (cs : List Char) : Option (List Char × List Char) :=
  match sign ['e', 'E'] cs with
  | ([], cs) => some ([], cs)
  | (mark, cs) =>
    let (sign, cs) := sign ['+', '-'] cs
    (digits? cs).map fun (digits, rest) => (mark ++ sign ++ digits, rest)

def number? (cs : List Char) : Option (Value × List Char) := do
  let (sign, cs) := sign ['-'] cs
  let (whole, cs) ← whole? cs
  let (fraction, cs) ← fraction? cs
  let (exponent, cs) ← exponent? cs
  return (.number (String.ofList (sign ++ whole ++ fraction ++ exponent)), cs)

/-! Values -/

/-- A word that stands for a value. -/
def word? (cs : List Char) : Option (Value × List Char) :=
  if ['n', 'u', 'l', 'l'].isPrefixOf cs then some (.null, cs.drop 4)
  else if ['t', 'r', 'u', 'e'].isPrefixOf cs then some (.bool true, cs.drop 4)
  else if ['f', 'a', 'l', 's', 'e'].isPrefixOf cs then some (.bool false, cs.drop 5)
  else none

mutual

/-- The value at the front, and what follows it, in at most as many steps as the count says. -/
def value? : Nat → List Char → Option (Value × List Char)
  | 0, _ => none
  | count + 1, cs =>
    match skip cs with
    | '"' :: rest => (chars? rest).map fun (text, rest) => (.string (String.ofList text), rest)
    | '[' :: rest =>
      match skip rest with
      | ']' :: rest => some (.array [], rest)
      | rest => (items? count rest).map fun (items, rest) => (.array items, rest)
    | '\x7b' :: rest =>
      match skip rest with
      | '\x7d' :: rest => some (.object [], rest)
      | rest => (members? count rest).map fun (members, rest) => (.object members, rest)
    | cs => (word? cs).or (number? cs)

/-- Items up to the closing bracket. -/
def items? : Nat → List Char → Option (List Value × List Char)
  | 0, _ => none
  | count + 1, cs =>
    (value? count cs).bind fun (item, rest) =>
      match skip rest with
      | ']' :: rest => some ([item], rest)
      | ',' :: rest => (items? count rest).map fun (items, rest) => (item :: items, rest)
      | _ => none

/-- Members up to the closing brace. -/
def members? : Nat → List Char → Option (List (String × Value) × List Char)
  | 0, _ => none
  | count + 1, cs =>
    match skip cs with
    | '"' :: rest => (chars? rest).bind fun (key, rest) =>
      match skip rest with
      | ':' :: rest => (value? count rest).bind fun (value, rest) =>
        match skip rest with
        | '\x7d' :: rest => some ([(String.ofList key, value)], rest)
        | ',' :: rest => (members? count rest).map fun (members, rest) =>
          ((String.ofList key, value) :: members, rest)
        | _ => none
      | _ => none
    | _ => none

end

end Reader

/-- The value that a text stands for, if it is JSON. No step is made without a character. -/
def read? (text : String) : Option Value :=
  (Reader.value? text.length text.toList).bind fun (value, rest) =>
    if (Reader.skip rest).isEmpty then some value else none

mutual

/-- What the text of a value is to be read as. -/
def value : Json → Value
  | string text => .string text
  | array items => .array (values items)
  | object members => .object (memberValues members)

def values : List Json → List Value
  | [] => []
  | item :: items => value item :: values items

def memberValues : List (String × Json) → List (String × Value)
  | [] => []
  | (key, v) :: members => (key, value v) :: memberValues members

end

theorem values_eq_map (items : List Json) : values items = items.map value := by
  induction items with
  | nil => rfl
  | cons item items ih => rw [values, ih, List.map_cons]

namespace Reader

theorem skip_newline (depth : Nat) (cs : List Char) : skip (newline depth ++ cs) = skip cs := by
  have gaps : ∀ c ∈ newline depth, isGap c = true := by
    intro c member
    rcases List.mem_cons.mp member with rfl | space
    · rfl
    · rw [List.eq_of_mem_replicate space]
      rfl
  exact List.dropWhile_append_of_pos gaps

theorem hexValue?_hexDigit (small : n < 16) : hexValue? (hexDigit n) = some n := by
  have all : ∀ n < 16, hexValue? (hexDigit n) = some n := by decide
  exact all n small

/-- The number of a control character, in four digits, is read as the character. -/
theorem numbered?_control (control : c.toNat < 0x20) (rest : List Char) :
    numbered? ('0' :: '0' :: hexDigit (c.toNat / 16) :: hexDigit (c.toNat % 16) :: rest) =
      some (c, rest) := by
  have zero : hexValue? '0' = some 0 := rfl
  have high : hexValue? (hexDigit (c.toNat / 16)) = some (c.toNat / 16) :=
    hexValue?_hexDigit (by omega)
  have low : hexValue? (hexDigit (c.toNat % 16)) = some (c.toNat % 16) :=
    hexValue?_hexDigit (by omega)
  have number : ((0 * 16 + 0) * 16 + c.toNat / 16) * 16 + c.toNat % 16 = c.toNat := by omega
  have digits : unit? ('0' :: '0' :: hexDigit (c.toNat / 16) :: hexDigit (c.toNat % 16) :: rest) =
      some (c.toNat, rest) := by
    simp only [unit?, zero, high, low, Option.bind_eq_bind, Option.bind_some, number, Option.pure_def]
  have first : ¬ 0xD800 ≤ c.toNat := by omega
  have second : ¬ 0xDC00 ≤ c.toNat := by omega
  simp [numbered?, digits, first, second, Char.ofNat_toNat]

theorem chars?_escaped (read : escaped? cs = some (c, rest)) :
    chars? ('\\' :: cs) = (chars? rest).map fun (text, rest) => (c :: text, rest) := by
  rw [chars?]
  split <;> simp_all

/-- However a character is written, the reader goes on behind it. -/
theorem chars?_escape (c : Char) (rest : List Char) :
    chars? (escape c ++ rest) = (chars? rest).map fun (text, rest) => (c :: text, rest) := by
  rw [escape]
  split_ifs with quote backslash backspace feed newline carriage tab control
  · subst quote; exact chars?_escaped rfl
  · subst backslash; exact chars?_escaped rfl
  · subst backspace; exact chars?_escaped rfl
  · subst feed; exact chars?_escaped rfl
  · subst newline; exact chars?_escaped rfl
  · subst carriage; exact chars?_escaped rfl
  · subst tab; exact chars?_escaped rfl
  · exact chars?_escaped (numbered?_control control rest)
  · rw [List.singleton_append, chars?]
    · rw [if_neg control]
    · exact quote
    · exact backslash

theorem chars?_quote (text rest : List Char) :
    chars? (text.flatMap escape ++ '"' :: rest) = some (text, rest) := by
  induction text with
  | nil => rw [List.flatMap_nil, List.nil_append, chars?]
  | cons c text ih =>
    rw [List.flatMap_cons, List.append_assoc, chars?_escape, ih, Option.map_some]

/-- A value's text begins with no white space and with no end of the array or object around it. -/
theorem exists_layout (depth : Nat) (j : Json) :
    ∃ c cs, layout depth j = c :: cs ∧ isGap c = false ∧ c ≠ ']' := by
  cases j with
  | string text => exact ⟨'"', _, rfl, rfl, by decide⟩
  | array items => cases items <;> exact ⟨'[', _, rfl, rfl, by decide⟩
  | object members => cases members <;> exact ⟨'\x7b', _, rfl, rfl, by decide⟩

theorem skip_layout (depth : Nat) (j : Json) (rest : List Char) :
    skip (layout depth j ++ rest) = layout depth j ++ rest := by
  obtain ⟨c, cs, starts, solid, -⟩ := exists_layout depth j
  rw [starts, List.cons_append, skip, List.dropWhile_cons_of_neg (by simp [solid])]

theorem value?_newline (count depth : Nat) (cs : List Char) :
    value? count (newline depth ++ cs) = value? count cs := by
  cases count with
  | zero => rfl
  | succ count => rw [value?, value?, skip_newline]

theorem items?_newline (count depth : Nat) (cs : List Char) :
    items? count (newline depth ++ cs) = items? count cs := by
  cases count with
  | zero => rfl
  | succ count => rw [items?, items?, value?_newline]

theorem members?_newline (count depth : Nat) (cs : List Char) :
    members? count (newline depth ++ cs) = members? count cs := by
  cases count with
  | zero => rfl
  | succ count => rw [members?, members?, skip_newline]

/-- An array of which the items are read. -/
theorem value?_array {cs : List Char} (opens : cs.head? ≠ some ']') (solid : skip cs = cs)
    (read : items? count cs = some (items, rest)) (depth : Nat) :
    value? (count + 1) ('[' :: newline depth ++ cs) = some (.array items, rest) := by
  have front : skip ('[' :: (newline depth ++ cs)) = '[' :: (newline depth ++ cs) := rfl
  rw [value?, List.cons_append, front]
  simp only [skip_newline, solid]
  split
  · simp_all
  · rw [read, Option.map_some]

theorem value?_object {cs : List Char} (opens : cs.head? = some '"')
    (read : members? count cs = some (members, rest)) (depth : Nat) :
    value? (count + 1) ('\x7b' :: newline depth ++ cs) = some (.object members, rest) := by
  have front : skip ('\x7b' :: (newline depth ++ cs)) = '\x7b' :: (newline depth ++ cs) := rfl
  have solid : skip cs = cs := by
    obtain ⟨cs, rfl⟩ := List.head?_eq_some_iff.mp opens
    rfl
  rw [value?, List.cons_append, front]
  simp only [skip_newline, solid]
  split
  · simp_all
  · rw [read, Option.map_some]

/-- A member of which the value is read, and what is found behind it. -/
theorem members?_member {after : List Char} (read : value? count cs = some (v, after)) (key : String) :
    members? (count + 1) (quote key ++ [':', ' '] ++ cs) =
      match skip after with
      | '\x7d' :: rest => some ([(key, v)], rest)
      | ',' :: rest => (members? count rest).map fun (members, rest) => ((key, v) :: members, rest)
      | _ => none := by
  have text : quote key ++ [':', ' '] ++ cs =
      '"' :: (key.toList.flatMap escape ++ '"' :: (':' :: ' ' :: cs)) := by
    simp [quote]
  have front (cs : List Char) : skip ('"' :: cs) = '"' :: cs := rfl
  have colon : skip (':' :: ' ' :: cs) = ':' :: ' ' :: cs := rfl
  have space : value? count (' ' :: cs) = value? count cs := by
    cases count with
    | zero => rfl
    | succ count => rw [value?, value?]; rfl
  rw [text, members?, front]
  simp only [chars?_quote, Option.bind_some, colon, space, read, String.ofList_toList]

mutual

/-- The text of a value is read as that value, wherever it stands. -/
theorem value?_layout (count depth : Nat) (j : Json) (rest : List Char)
    (enough : (layout depth j).length ≤ count) :
    value? count (layout depth j ++ rest) = some (value j, rest) := by
  obtain ⟨c, cs, starts, -, -⟩ := exists_layout depth j
  cases count with
  | zero => simp [starts] at enough
  | succ count =>
    match j with
    | string text =>
      have front : skip (layout depth (string text) ++ rest) =
          '"' :: (text.toList.flatMap escape ++ '"' :: rest) := by
        simp [layout, quote, skip, isGap]
      rw [value?, front]
      simp only [chars?_quote, Option.map_some, String.ofList_toList, value]
    | array [] => rfl
    | array (item :: items) =>
      have read := items?_layout count (depth + 1) depth item items rest (by
        simp only [layout, newline, List.length_append, List.length_cons] at enough ⊢
        omega)
      have text : layout depth (array (item :: items)) ++ rest =
          '[' :: newline (depth + 1) ++ (layout (depth + 1) item ++
            (layoutItems (depth + 1) items ++ newline depth ++ ']' :: rest)) := by
        simp [layout]
      rw [text]
      refine value?_array ?_ (skip_layout _ _ _) read _
      obtain ⟨c, cs, starts, -, differs⟩ := exists_layout (depth + 1) item
      simpa [starts] using differs
    | object [] => rfl
    | object ((key, v) :: members) =>
      have read := members?_layout count (depth + 1) depth key v members rest (by
        simp only [layout, newline, List.length_append, List.length_cons] at enough ⊢
        omega)
      have text : layout depth (object ((key, v) :: members)) ++ rest =
          '\x7b' :: newline (depth + 1) ++ (quote key ++ [':', ' '] ++ (layout (depth + 1) v ++
            (layoutMembers (depth + 1) members ++ newline depth ++ '\x7d' :: rest))) := by
        simp [layout]
      rw [text]
      exact value?_object rfl read _

theorem items?_layout (count depth outer : Nat) (item : Json) (items : List Json)
    (rest : List Char) (enough : (layout depth item ++ layoutItems depth items).length < count) :
    items? count (layout depth item ++
      (layoutItems depth items ++ newline outer ++ ']' :: rest)) =
        some (value item :: values items, rest) := by
  cases count with
  | zero => contradiction
  | succ count =>
    rw [List.length_append] at enough
    have read := value?_layout count depth item
      (layoutItems depth items ++ newline outer ++ ']' :: rest) (by omega)
    rw [items?, read, Option.bind_some]
    match items with
    | [] =>
      have close : skip (newline outer ++ ']' :: rest) = ']' :: rest := by
        rw [skip_newline]
        rfl
      simp only [layoutItems, List.nil_append, close, values]
    | next :: items =>
      have later := items?_layout count depth outer next items rest (by
        simp only [layoutItems, newline, List.length_append, List.length_cons] at enough ⊢
        omega)
      have comma : skip (layoutItems depth (next :: items) ++ newline outer ++ ']' :: rest) =
          ',' :: (newline depth ++ (layout depth next ++
            (layoutItems depth items ++ newline outer ++ ']' :: rest))) := by
        simp [layoutItems, skip, isGap]
      simp only [comma, items?_newline, later, Option.map_some, values]

theorem members?_layout (count depth outer : Nat) (key : String) (v : Json)
    (members : List (String × Json)) (rest : List Char)
    (enough : (quote key ++ layout depth v ++ layoutMembers depth members).length < count) :
    members? count (quote key ++ [':', ' '] ++ (layout depth v ++
      (layoutMembers depth members ++ newline outer ++ '\x7d' :: rest))) =
        some ((key, value v) :: memberValues members, rest) := by
  cases count with
  | zero => contradiction
  | succ count =>
    simp only [List.length_append] at enough
    have read := value?_layout count depth v
      (layoutMembers depth members ++ newline outer ++ '\x7d' :: rest) (by omega)
    rw [members?_member read]
    match members with
    | [] =>
      have close : skip (newline outer ++ '\x7d' :: rest) = '\x7d' :: rest := by
        rw [skip_newline]
        rfl
      simp only [layoutMembers, List.nil_append, close, memberValues]
    | (key', v') :: members =>
      have later := members?_layout count depth outer key' v' members rest (by
        simp only [layoutMembers, newline, List.length_append, List.length_cons] at enough ⊢
        omega)
      have comma : skip (layoutMembers depth ((key', v') :: members) ++ newline outer ++
          '\x7d' :: rest) = ',' :: (newline depth ++ (quote key' ++ [':', ' '] ++ (layout depth v' ++
            (layoutMembers depth members ++ newline outer ++ '\x7d' :: rest)))) := by
        simp [layoutMembers, skip, isGap]
      simp only [comma, members?_newline, later, Option.map_some, memberValues]

end

end Reader

/-- The text of a value is read as that value. -/
theorem read?_pretty (j : Json) : read? (j.pretty ++ "\n") = some (value j) := by
  have enough : (layout 0 j).length ≤ (j.pretty ++ "\n").length := by
    simp [pretty]
  have read := Reader.value?_layout _ 0 j ['\n'] enough
  have text : (j.pretty ++ "\n").toList = layout 0 j ++ ['\n'] := by
    simp [pretty]
  rw [read?, text, read]
  rfl

/-- A text that is laid out in another way is read as well. -/
example : read? " [null,-0.5e+3, \"\\ud83d\\ude00\\/\"]" =
    some (.array [.null, .number "-0.5e+3", .string "😀/"]) := by cbv

end DocAnswers.Json
