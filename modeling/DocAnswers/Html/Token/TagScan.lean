import DocAnswers.Html.CharRef
import DocAnswers.Html.Token

/-! Reading a tag: its name, its attributes and the bracket that closes it. A tag that the end of the
text breaks off is nothing. -/
namespace DocAnswers.Html.TagScan

/-- What a tag's name may consist of. -/
def isNameChar (c : Char) : Bool := !isSpace c && c != '/' && c != '>'

/-- What an attribute's name may consist of after its first character. -/
def isAttributeChar (c : Char) : Bool := isNameChar c && c != '='

def nameOf (cs : List Char) : String := String.ofList (replaceNul (toLower cs))

def valueOf (cs : List Char) : String :=
  String.ofList (CharRef.decode true (replaceNul cs))

/-- The text up to a closing quote, and what follows the quote. -/
def quoted (quote : Char) (cs : List Char) : Option (List Char × List Char) :=
  match cs.dropWhile (· ≠ quote) with
  | [] => none
  | _ :: rest => some (cs.takeWhile (· ≠ quote), rest)

/-- An attribute's value after the equals sign, and what follows it. -/
def value? (cs : List Char) : Option (List Char × List Char) :=
  match cs.dropWhile isSpace with
  | [] => none
  | '"' :: rest => quoted '"' rest
  | '\'' :: rest => quoted '\'' rest
  | rest =>
    let inValue := fun c => !isSpace c && c != '>'
    some (rest.takeWhile inValue, rest.dropWhile inValue)

theorem length_quoted_le (h : quoted quote cs = some (v, rest)) : rest.length ≤ cs.length := by
  have hd := (List.dropWhile_suffix (· ≠ quote) (l := cs)).length_le
  unfold quoted at h
  split at h
  · cases h
  · next heq =>
    cases h
    rw [heq] at hd
    simp at hd
    omega

theorem length_value?_le (h : value? cs = some (v, rest)) : rest.length ≤ cs.length := by
  have hd := (List.dropWhile_suffix isSpace (l := cs)).length_le
  unfold value? at h
  split at h
  · cases h
  · next heq =>
    have hq := length_quoted_le h
    rw [heq] at hd
    simp at hd
    omega
  · next heq =>
    have hq := length_quoted_le h
    rw [heq] at hd
    simp at hd
    omega
  · cases h
    exact Nat.le_trans (List.dropWhile_suffix _).length_le hd

/-- The attributes of a tag from behind its name, whether it closes itself, and what follows it. -/
def attributes? (cs : List Char) : Option (List Attribute × Bool × List Char) :=
  match _front : cs.dropWhile isSpace with
  | [] => none
  | '>' :: rest => some ([], false, rest)
  | '/' :: '>' :: rest => some ([], true, rest)
  | '/' :: rest => attributes? rest
  | c :: rest =>
    let name := nameOf (c :: rest.takeWhile isAttributeChar)
    match _behind : (rest.dropWhile isAttributeChar).dropWhile isSpace with
    | '=' :: afterEquals =>
      match _value : value? afterEquals with
      | none => none
      | some (v, after) =>
        (attributes? after).map fun (others, closing, after) =>
          (⟨name, valueOf v⟩ :: others, closing, after)
    | after =>
      (attributes? after).map fun (others, closing, after) => (⟨name, ""⟩ :: others, closing, after)
termination_by cs.length
decreasing_by
  all_goals
    have hd := (List.dropWhile_suffix isSpace (l := cs)).length_le
    rw [_front] at hd
    simp only [List.length_cons] at hd
  · omega
  · have h1 := (List.dropWhile_suffix isSpace (l := rest.dropWhile isAttributeChar)).length_le
    have h2 := (List.dropWhile_suffix isAttributeChar (l := rest)).length_le
    have h3 := length_value?_le _value
    rw [_behind] at h1
    simp only [List.length_cons] at h1
    omega
  · have h1 := (List.dropWhile_suffix isSpace (l := rest.dropWhile isAttributeChar)).length_le
    have h2 := (List.dropWhile_suffix isAttributeChar (l := rest)).length_le
    rw [_behind] at h1
    omega

theorem length_attributes?_le (h : attributes? cs = some r) : r.2.2.length ≤ cs.length := by
  have hd := (List.dropWhile_suffix isSpace (l := cs)).length_le
  fun_induction attributes? cs generalizing r with
  | case1 => simp at h
  | case2 cs rest front =>
    rw [front] at hd
    cases h
    simp only [List.length_cons] at hd ⊢
    omega
  | case3 cs rest front =>
    rw [front] at hd
    cases h
    simp only [List.length_cons] at hd ⊢
    omega
  | case4 cs rest _ front ih =>
    rw [front] at hd
    have := ih h (List.dropWhile_suffix _).length_le
    simp only [List.length_cons] at hd
    omega
  | case5 => simp at h
  | case6 =>
    rename_i cs c rest _ _ _ front _ afterEquals behind v after found ih
    rw [front] at hd
    obtain ⟨r', h', rfl⟩ := Option.map_eq_some_iff.1 h
    have h0 := ih h' (List.dropWhile_suffix _).length_le
    have h1 := (List.dropWhile_suffix isSpace (l := rest.dropWhile isAttributeChar)).length_le
    have h2 := (List.dropWhile_suffix isAttributeChar (l := rest)).length_le
    have h3 := length_value?_le found
    rw [behind] at h1
    simp only [List.length_cons] at hd h1
    exact Nat.le_trans h0 (by omega)
  | case7 =>
    rename_i cs c rest _ _ _ front _ _ ih
    rw [front] at hd
    obtain ⟨r', h', rfl⟩ := Option.map_eq_some_iff.1 h
    have h0 := ih h' (List.dropWhile_suffix _).length_le
    have h1 := (List.dropWhile_suffix isSpace (l := rest.dropWhile isAttributeChar)).length_le
    have h2 := (List.dropWhile_suffix isAttributeChar (l := rest)).length_le
    simp only [List.length_cons] at hd
    exact Nat.le_trans h0 (by omega)

/-- Of attributes with one name only the first counts. -/
def keepFirst : List Attribute → List Attribute
  | [] => []
  | a :: rest => a :: (keepFirst rest).filter (·.name ≠ a.name)

/-- A tag from the first character of its name, and what follows it. -/
def read? (cs : List Char) : Option (Tag × List Char) :=
  match attributes? (cs.dropWhile isNameChar) with
  | none => none
  | some (found, closing, rest) =>
    some (⟨nameOf (cs.takeWhile isNameChar), keepFirst found, closing⟩, rest)

theorem length_read?_le (h : read? cs = some r) : r.2.length ≤ cs.length := by
  unfold read? at h
  split at h
  · cases h
  · next found =>
    cases h
    exact Nat.le_trans (length_attributes?_le found) (List.dropWhile_suffix _).length_le

end DocAnswers.Html.TagScan
