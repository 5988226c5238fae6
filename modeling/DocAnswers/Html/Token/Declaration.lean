import DocAnswers.Html.Token

/-! What may follow `<!`: comments and document type declarations. -/
namespace DocAnswers.Html.Declaration

/-- What follows the end of a comment, from behind its start. -/
def afterCommentBody : List Char → List Char
  | [] => []
  | c :: cs =>
    if ['-', '-', '>'].isPrefixOf (c :: cs) then cs.drop 2
    else if ['-', '-', '!', '>'].isPrefixOf (c :: cs) then cs.drop 3
    else afterCommentBody cs

/-- A comment may also end right where it starts, with fewer dashes than elsewhere. -/
def afterComment : List Char → List Char
  | '>' :: cs => cs
  | '-' :: '>' :: cs => cs
  | cs => afterCommentBody cs

/-- What follows the next closing bracket. -/
def afterBracket (cs : List Char) : List Char := (cs.dropWhile (· ≠ '>')).drop 1

/-- Whether some characters start with a word in small or capital letters. -/
def startsWith (word cs : List Char) : Bool := toLower (cs.take word.length) == toLower word

/-- An identifier up to its closing quote. A bracket before the quote ends the whole declaration. -/
def identifier (quote : Char) (cs : List Char) : String × Bool × List Char :=
  let stops := fun c => c == quote || c == '>'
  let inside := String.ofList (replaceNul (cs.takeWhile (!stops ·)))
  match cs.dropWhile (!stops ·) with
  | [] => (inside, false, [])
  | c :: rest => if c = quote then (inside, true, rest) else (inside, false, c :: rest)

/-- The system identifier, if there is one, to the end of the declaration. Where it has to be there,
its absence is a fault. -/
def systemPart (d : Doctype) (required : Bool) (cs : List Char) : Doctype × List Char :=
  match cs.dropWhile isSpace with
  | [] => ({ d with malformed := true }, [])
  | '>' :: rest => ({ d with malformed := required }, rest)
  | c :: rest =>
    if c = '"' || c = '\'' then
      let (id, closed, after) := identifier c rest
      let d := { d with systemId := some id, malformed := !closed }
      match after.dropWhile isSpace with
      | [] => ({ d with malformed := true }, [])
      | after => (d, afterBracket after)
    else ({ d with malformed := true }, afterBracket (c :: rest))

/-- The public identifier and what follows it. -/
def publicPart (d : Doctype) (cs : List Char) : Doctype × List Char :=
  match cs.dropWhile isSpace with
  | c :: rest =>
    if c = '"' || c = '\'' then
      let (id, closed, after) := identifier c rest
      let d := { d with publicId := some id }
      if closed then systemPart d false after
      else ({ d with malformed := true }, afterBracket after)
    else ({ d with malformed := true }, afterBracket (c :: rest))
  | [] => ({ d with malformed := true }, [])

/-- A document type declaration from behind its keyword, and what follows it. -/
def doctype (cs : List Char) : Doctype × List Char :=
  match cs.dropWhile isSpace with
  | [] => ({ malformed := true }, [])
  | '>' :: rest => ({ malformed := true }, rest)
  | named =>
    let inName := fun c => !isSpace c && c != '>'
    let d : Doctype := { name := some (String.ofList (replaceNul (toLower (named.takeWhile inName)))) }
    match (named.dropWhile inName).dropWhile isSpace with
    | [] => ({ d with malformed := true }, [])
    | '>' :: rest => (d, rest)
    | rest =>
      if startsWith ['p', 'u', 'b', 'l', 'i', 'c'] rest then publicPart d (rest.drop 6)
      else if startsWith ['s', 'y', 's', 't', 'e', 'm'] rest then systemPart d true (rest.drop 6)
      else ({ d with malformed := true }, afterBracket rest)

def startsCData (cs : List Char) : Bool :=
  ['[', 'C', 'D', 'A', 'T', 'A', '['].isPrefixOf cs

/-- The characters of a marked section up to its end, and what follows it. -/
def cdata : List Char → List Char × List Char
  | [] => ([], [])
  | c :: cs =>
    if [']', ']', '>'].isPrefixOf (c :: cs) then ([], cs.drop 2)
    else
      let (inside, rest) := cdata cs
      (c :: inside, rest)

/-! Reading a declaration never adds to what is left of the text. -/

theorem length_afterBracket_le (cs : List Char) : (afterBracket cs).length ≤ cs.length := by
  have := (List.dropWhile_suffix (· ≠ '>') (l := cs)).length_le
  simp only [afterBracket, List.length_drop]
  omega

theorem length_afterCommentBody_le (cs : List Char) : (afterCommentBody cs).length ≤ cs.length := by
  induction cs with
  | nil => simp [afterCommentBody]
  | cons c cs ih =>
    simp only [afterCommentBody]
    split
    · simp; omega
    · split
      · simp; omega
      · simp; omega

theorem length_afterComment_le (cs : List Char) : (afterComment cs).length ≤ cs.length := by
  unfold afterComment
  split
  · simp
  · simp; omega
  · exact length_afterCommentBody_le _

theorem length_identifier_le (quote : Char) (cs : List Char) :
    (identifier quote cs).2.2.length ≤ cs.length := by
  have hd := (List.dropWhile_suffix (fun c => !(c == quote || c == '>')) (l := cs)).length_le
  simp only [identifier]
  split
  · simp
  · next heq =>
    rw [heq] at hd
    simp only [List.length_cons] at hd
    split
    · simp only; omega
    · simp only [List.length_cons]; omega

theorem length_systemPart_le (d : Doctype) (required : Bool) (cs : List Char) :
    (systemPart d required cs).2.length ≤ cs.length := by
  have hd := (List.dropWhile_suffix isSpace (l := cs)).length_le
  unfold systemPart
  split
  · simp
  · next heq => rw [heq] at hd; simp only [List.length_cons] at hd; simp only; omega
  · next c rest _ heq =>
    rw [heq] at hd
    simp only [List.length_cons] at hd
    split
    · have hi := length_identifier_le c rest
      have hs := (List.dropWhile_suffix isSpace (l := (identifier c rest).2.2)).length_le
      simp only
      split
      · simp
      · exact Nat.le_trans (length_afterBracket_le _) (Nat.le_trans hs (by omega))
    · have hb := length_afterBracket_le (c :: rest)
      simp only [List.length_cons] at hb ⊢
      omega

theorem length_publicPart_le (d : Doctype) (cs : List Char) :
    (publicPart d cs).2.length ≤ cs.length := by
  have hd := (List.dropWhile_suffix isSpace (l := cs)).length_le
  unfold publicPart
  split
  · next c rest heq =>
    rw [heq] at hd
    simp only [List.length_cons] at hd
    have hi := length_identifier_le c rest
    split
    · simp only
      split
      · exact Nat.le_trans (length_systemPart_le _ _ _) (Nat.le_trans hi (by omega))
      · exact Nat.le_trans (length_afterBracket_le _) (Nat.le_trans hi (by omega))
    · exact Nat.le_trans (length_afterBracket_le _) (by simp only [List.length_cons]; omega)
  · simp

theorem length_doctype_le (cs : List Char) : (doctype cs).2.length ≤ cs.length := by
  have hd := (List.dropWhile_suffix isSpace (l := cs)).length_le
  unfold doctype
  split
  · simp
  · next heq => rw [heq] at hd; simp only [List.length_cons] at hd; simp only; omega
  · have hn : ((cs.dropWhile isSpace).dropWhile fun c => !isSpace c && c != '>').length ≤
        (cs.dropWhile isSpace).length := (List.dropWhile_suffix _).length_le
    have hs := (List.dropWhile_suffix isSpace
      (l := (cs.dropWhile isSpace).dropWhile fun c => !isSpace c && c != '>')).length_le
    simp only
    split
    · simp
    · next h2 => rw [h2] at hs; simp only [List.length_cons] at hs; simp only; omega
    · split
      · refine Nat.le_trans (length_publicPart_le _ _) ?_
        simp only [List.length_drop]
        omega
      · split
        · refine Nat.le_trans (length_systemPart_le _ _ _) ?_
          simp only [List.length_drop]
          omega
        · exact Nat.le_trans (length_afterBracket_le _) (by omega)

theorem length_cdata_le (cs : List Char) : (cdata cs).2.length ≤ cs.length := by
  induction cs with
  | nil => simp [cdata]
  | cons c cs ih =>
    simp only [cdata]
    split
    · simp; omega
    · simp only [List.length_cons]; omega

end DocAnswers.Html.Declaration
