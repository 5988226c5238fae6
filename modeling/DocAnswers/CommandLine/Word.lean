import DocAnswers.CommandLine.Options
import DocAnswers.Text.Decimal

/-! The words of a command line: settings with a value, switches without one, and operands. -/
namespace DocAnswers.CommandLine

/-- What can be set to a value. -/
inductive Setting where
  | program
  | compiler
  | endpoint
  | site
  | timeout
  | mark
  | reviewedToken
  | format
  | logLevel
deriving DecidableEq, Repr

namespace Setting

def all : List Setting :=
  [program, compiler, endpoint, site, timeout, mark, reviewedToken, format, logLevel]

def name : Setting → String
  | program => "program"
  | compiler => "cc"
  | endpoint => "search-url"
  | site => "site"
  | timeout => "timeout"
  | mark => "comment-prefix"
  | reviewedToken => "reviewed-token"
  | format => "format"
  | logLevel => "log-level"

def letter? : Setting → Option Char
  | program => some 'p'
  | format => some 'f'
  | _ => none

/-- The environment variable that counts where the command line is silent. -/
def environmentName? : Setting → Option String
  | compiler => some "CC"
  | endpoint => some "PBS_SEARCH_URL"
  | site => some "PBS_SITE"
  | timeout => some "PBS_TIMEOUT"
  | _ => none

/-- Whether the next word is the value even if it looks like an option. -/
def takesAnything (s : Setting) : Bool := s == mark

/-- Counts of seconds have sixty-four bits. -/
def readTimeout (value : String) : Option Nat :=
  (Text.Decimal.read? value.toList).filter (· < UInt64.size)

def readFormat (value : String) : Option Format :=
  [("text", Format.text), ("json", Format.json)].lookup value

/-- The options with a value set, if the value is of the right form. -/
def assign? (s : Setting) (value : String) (o : Options) : Option Options :=
  match s with
  | program => some { o with program := some value }
  | compiler => some { o with compiler := value }
  | endpoint => some { o with engine := { o.engine with endpoint := value } }
  | site => some { o with engine := { o.engine with site := value } }
  | timeout => (readTimeout value).map fun n => { o with timeout := n }
  | mark => some { o with convention := { o.convention with mark := value } }
  | reviewedToken => some { o with convention := { o.convention with reviewedToken := value } }
  | format => (readFormat value).map fun f => { o with format := f }
  | logLevel => some { o with logLevel := value }

end Setting

/-- What can be switched on. -/
inductive Switch where
  | separate
  | noBuild
  | noLookup
  | help
deriving DecidableEq, Repr

namespace Switch

def all : List Switch := [separate, noBuild, noLookup, help]

def name : Switch → String
  | separate => "separate"
  | noBuild => "no-build"
  | noLookup => "no-lookup"
  | help => "help"

def letter? : Switch → Option Char
  | help => some 'h'
  | _ => none

def apply (s : Switch) (o : Options) : Options :=
  match s with
  | separate => { o with separate := true }
  | noBuild => { o with build := false }
  | noLookup => { o with lookup := false }
  | help => o

end Switch

inductive Word where
  | operand (text : String)
  /-- Everything behind it is an operand. -/
  | divider
  /-- A setting, with its value if the word holds it. -/
  | setting (s : Setting) (attached : Option String)
  /-- A switch. It should have no value, but the word may hold one. -/
  | switch (s : Switch) (attached : Option String)
  | unknown
deriving DecidableEq, Repr

namespace Word

/-- A word that starts with two dashes. A value is attached by an equals sign. -/
def ofLong (cs : List Char) : Word :=
  let name := String.ofList (cs.takeWhile (· ≠ '='))
  let attached := (cs.dropWhile (· ≠ '=')).tail?.map String.ofList
  match Setting.all.find? (·.name == name), Switch.all.find? (·.name == name) with
  | some s, _ => setting s attached
  | none, some s => switch s attached
  | none, none => unknown

/-- A word of one dash and a letter. A value is attached as it is or by an equals sign. -/
def ofShort (letter : Char) (rest : List Char) : Word :=
  let attached :=
    match rest with
    | [] => none
    | '=' :: value => some (String.ofList value)
    | value => some (String.ofList value)
  match Setting.all.find? (·.letter? == some letter), Switch.all.find? (·.letter? == some letter) with
  | some s, _ => setting s attached
  | none, some s => switch s none
  | none, none => unknown

def ofText (text : String) : Word :=
  match text.toList with
  | ['-', '-'] => divider
  | '-' :: '-' :: cs => ofLong cs
  | ['-'] => operand text
  | '-' :: letter :: rest => ofShort letter rest
  | _ => operand text

end Word
end DocAnswers.CommandLine
