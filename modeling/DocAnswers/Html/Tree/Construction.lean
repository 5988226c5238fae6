import DocAnswers.Html.Token.Scan
import DocAnswers.Html.Tree.Foreign

/-! Tree construction as a whole: tokens are read from the front of the text, in the way that the
state asks for, and change the state one after the other. -/
namespace DocAnswers.Html.Tree.Builder
open Step

/-- The rules of the current mode. -/
def rules (b : Builder) (t : Token) : Step :=
  match b.mode with
  | .initial => b.initial t
  | .beforeHtml => b.beforeHtml t
  | .beforeHead => b.beforeHead t
  | .inHead => b.inHead t
  | .afterHead => b.afterHead t
  | .inBody => b.inBody t
  | .text => b.text t
  | .inTable => b.inTable t
  | .inTableText => b.inTableText t
  | .inCaption => b.inCaption t
  | .inColumnGroup => b.inColumnGroup t
  | .inTableBody => b.inTableBody t
  | .inRow => b.inRow t
  | .inCell => b.inCell t
  | .inSelect => b.inSelect t
  | .inSelectInTable => b.inSelectInTable t
  | .inTemplate => b.inTemplate t
  | .afterBody => b.afterBody t
  | .inFrameset => b.inFrameset t
  | .afterFrameset => b.afterFrameset t
  | .afterAfterBody => b.afterAfterBody t
  | .afterAfterFrameset => b.afterAfterFrameset t

def step (b : Builder) (t : Token) : Step := if b.isForeign t then b.foreign rules t else b.rules t

/-- Treats a token until it is used up, at most as many times as the count says. -/
def treat : Nat → Builder → Token → Builder
  | 0, b, _ => b
  | count + 1, b, t =>
    match b.step t with
    | done b => b
    | again b => treat count b t

/-- A token is treated again only to pass from one part of the document to the next or to close an
element, so there is an end to it. -/
def patience (b : Builder) : Nat := 8 * b.stack.length + 24

/-- Takes in the next token. -/
def feed (b : Builder) (t : Token) : Builder :=
  let skip := b.skipNewline
  let b := { b with skipNewline := false }
  if skip && t == .char '\n' then b else treat b.patience b t

def feedAll (b : Builder) (ts : List Token) : Builder := ts.foldl feed b

/-- Takes in the raw text at the front, if the state asks for some, and leaves the markup. -/
def feedRaw (b : Builder) (cs : List Char) : Builder × List Char :=
  let (inside, rest) := RawText.read b.contentModel cs
  (feedAll { b with contentModel := .markup } (inside.map .char), rest)

theorem length_feedRaw_le (b : Builder) (cs : List Char) :
    (b.feedRaw cs).2.length ≤ cs.length := RawText.length_read_le _ _

/-- Takes in a text to its end. -/
def run (b : Builder) (cs : List Char) : Builder :=
  match _read : b.feedRaw cs with
  | (next, []) => next.feed .eof
  | (next, c :: rest) =>
    let tokens := Token.front next.inForeign c rest
    run (next.feedAll tokens.1) tokens.2
termination_by cs.length
decreasing_by
  have left := b.length_feedRaw_le cs
  have := Token.length_front_le next.inForeign c rest
  rw [_read] at left
  simp only [List.length_cons] at left
  omega

end DocAnswers.Html.Tree.Builder
