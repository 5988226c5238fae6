import DocAnswers.Html.Token.Declaration
import DocAnswers.Html.Token.RawText
import DocAnswers.Html.Token.TagScan

/-! The tokens at the front of an HTML text. -/
namespace DocAnswers.Html.Token

/-- Carriage returns, alone or before a line feed, become line feeds. -/
def unifyNewlines : List Char → List Char
  | '\r' :: '\n' :: cs => '\n' :: unifyNewlines cs
  | '\r' :: cs => '\n' :: unifyNewlines cs
  | c :: cs => c :: unifyNewlines cs
  | [] => []

/-- A text as it is read: without a byte order mark and with line feeds only. -/
def prepare (cs : List Char) : List Char :=
  match cs with
  | '\ufeff' :: rest => unifyNewlines rest
  | cs => unifyNewlines cs

/-- What stands behind an exclamation mark. Marked sections are known outside HTML elements only. -/
def declaration (foreign : Bool) (cs : List Char) : List Token × List Char :=
  if ['-', '-'].isPrefixOf cs then ([comment], Declaration.afterComment (cs.drop 2))
  else if Declaration.startsWith ['d', 'o', 'c', 't', 'y', 'p', 'e'] cs then
    let (d, rest) := Declaration.doctype (cs.drop 7)
    ([doctype d], rest)
  else if foreign && Declaration.startsCData cs then
    let (inside, rest) := Declaration.cdata (cs.drop 7)
    (inside.map char, rest)
  else ([comment], Declaration.afterBracket cs)

/-- What an opening bracket starts. -/
def bracket (foreign : Bool) : List Char → List Token × List Char
  | [] => ([char '<'], [])
  | '/' :: [] => ([char '<', char '/'], [])
  | '/' :: c :: cs =>
    if c.isAlpha then
      match TagScan.read? (c :: cs) with
      | none => ([], [])
      | some (tag, rest) => ([endTag tag.name], rest)
    else if c = '>' then ([], cs)
    else ([comment], Declaration.afterBracket (c :: cs))
  | c :: cs =>
    if c.isAlpha then
      match TagScan.read? (c :: cs) with
      | none => ([], [])
      | some (tag, rest) => ([startTag tag], rest)
    else if c = '!' then declaration foreign cs
    else if c = '?' then ([comment], Declaration.afterBracket (c :: cs))
    else ([char '<'], c :: cs)

/-- The tokens that a character of markup starts, and what follows them. -/
def front (foreign : Bool) (c : Char) (cs : List Char) : List Token × List Char :=
  if c = '<' then bracket foreign cs
  else if c = '&' then
    match CharRef.read? false cs with
    | none => ([char '&'], cs)
    | some (chars, count) => (chars.map char, cs.drop count)
  else ([char c], cs)

theorem length_declaration_le (foreign : Bool) (cs : List Char) :
    (declaration foreign cs).2.length ≤ cs.length := by
  unfold declaration
  split
  · exact Nat.le_trans (Declaration.length_afterComment_le _) (by simp)
  · split
    · exact Nat.le_trans (Declaration.length_doctype_le _) (by simp)
    · split
      · exact Nat.le_trans (Declaration.length_cdata_le _) (by simp)
      · exact Declaration.length_afterBracket_le _

theorem length_bracket_le (foreign : Bool) (cs : List Char) :
    (bracket foreign cs).2.length ≤ cs.length := by
  unfold bracket
  split
  · simp
  · simp
  · next c cs =>
    split
    · split
      · simp
      · next found =>
        have := TagScan.length_read?_le found
        simp only [List.length_cons] at this ⊢
        omega
    · split
      · simp only [List.length_cons]; omega
      · have := Declaration.length_afterBracket_le (c :: cs)
        simp only [List.length_cons] at this ⊢
        omega
  · next c cs _ _ =>
    split
    · split
      · simp
      · next found => exact TagScan.length_read?_le found
    · split
      · exact Nat.le_trans (length_declaration_le _ _) (by simp)
      · split
        · exact Declaration.length_afterBracket_le _
        · simp

/-- Tokens never add to what is left of the text, so reading them comes to an end. -/
theorem length_front_le (foreign : Bool) (c : Char) (cs : List Char) :
    (front foreign c cs).2.length ≤ cs.length := by
  unfold front
  split
  · exact length_bracket_le _ _
  · split
    · split <;> simp
    · simp

end DocAnswers.Html.Token
