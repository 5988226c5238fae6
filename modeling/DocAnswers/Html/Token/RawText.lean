import DocAnswers.Html.CharRef
import DocAnswers.Html.Token

/-! Text that is not markup: the contents of elements such as `title`, `style` and `script`, up to the
end tag of the element or the end of the text. -/
namespace DocAnswers.Html.RawText

/-- Whether some characters start with a word, in small or capital letters, that ends there. -/
def startsWord (word cs : List Char) : Bool :=
  toLower (cs.take word.length) == word &&
    (cs.drop word.length).head?.any fun c => isSpace c || c == '/' || c == '>'

/-- Whether the end tag of an element starts here. -/
def atEndTag (name : List Char) : List Char → Bool
  | '<' :: '/' :: cs => startsWord name cs
  | _ => false

/-- The characters before an end tag, and what starts with it. -/
def untilEndTag (name : List Char) : List Char → List Char × List Char
  | [] => ([], [])
  | c :: cs =>
    if atEndTag name (c :: cs) then ([], c :: cs)
    else
      let (inside, rest) := untilEndTag name cs
      (c :: inside, rest)

/-- Which part of a script is being read. Inside a comment a nested script tag hides the end tag. -/
inductive ScriptPart where
  | code
  | comment
  | nested
deriving DecidableEq, Repr

def scriptName : List Char := ['s', 'c', 'r', 'i', 'p', 't']

def atCommentEnd (cs : List Char) : Bool := ['-', '-', '>'].isPrefixOf cs

def atNestedTag : List Char → Bool
  | '<' :: cs => startsWord scriptName cs
  | _ => false

/-- The part that a script is in behind its next character. -/
def ScriptPart.next (part : ScriptPart) (cs : List Char) : ScriptPart :=
  match part with
  | code => if ['<', '!', '-', '-'].isPrefixOf cs then comment else code
  | comment =>
    if atCommentEnd cs then code else if atNestedTag cs then nested else comment
  | nested =>
    if atCommentEnd cs then code else if atEndTag scriptName cs then comment else nested

/-- The characters of a script before its end tag, and what starts with it. -/
def script (part : ScriptPart) : List Char → List Char × List Char
  | [] => ([], [])
  | c :: cs =>
    if part != .nested && atEndTag scriptName (c :: cs) then ([], c :: cs)
    else
      let (inside, rest) := script (part.next (c :: cs)) cs
      (c :: inside, rest)

/-- The text at the front, and what follows it, where no markup is expected. -/
def read : ContentModel → List Char → List Char × List Char
  | .markup, cs => ([], cs)
  | .escapable name, cs =>
    let (inside, rest) := untilEndTag name.toList cs
    (CharRef.decode false (replaceNul inside), rest)
  | .raw name, cs =>
    let (inside, rest) := untilEndTag name.toList cs
    (replaceNul inside, rest)
  | .script, cs =>
    let (inside, rest) := script .code cs
    (replaceNul inside, rest)
  | .plain, cs => (replaceNul cs, [])

theorem length_untilEndTag_le (name cs : List Char) :
    (untilEndTag name cs).2.length ≤ cs.length := by
  induction cs with
  | nil => simp [untilEndTag]
  | cons c cs ih =>
    unfold untilEndTag
    split
    · simp
    · simp only [List.length_cons]
      omega

theorem length_script_le (part : ScriptPart) (cs : List Char) :
    (script part cs).2.length ≤ cs.length := by
  induction cs generalizing part with
  | nil => simp [script]
  | cons c cs ih =>
    unfold script
    split
    · simp
    · have := ih (part.next (c :: cs))
      simp only [List.length_cons]
      omega

/-- Reading raw text never adds to what is left of the text. -/
theorem length_read_le (model : ContentModel) (cs : List Char) :
    (read model cs).2.length ≤ cs.length := by
  unfold read
  split
  · exact Nat.le_refl _
  · exact length_untilEndTag_le _ _
  · exact length_untilEndTag_le _ _
  · exact length_script_le _ _
  · simp

end DocAnswers.Html.RawText
