import DocAnswers.Log.Event
import DocAnswers.Text.Blank
import DocAnswers.Text.Decimal

/-! Filters decide which events are shown. A filter is a list of directives; of those that apply to an
event the most specific one decides, and an event to which none applies is not shown. Written
directives are separated by commas; one that cannot be read is left out and reported. -/
namespace DocAnswers.Log
open Text

/-- The rank up to which levels are shown: 0 shows nothing and 5 shows everything. -/
abbrev Verbosity := Nat

namespace Verbosity

def names : List (String × Verbosity) :=
  [("off", 0), ("error", 1), ("warn", 2), ("info", 3), ("debug", 4), ("trace", 5)]

/-- A level is written as its name, in small or capital letters, or as its rank. The empty text is
the level of errors. -/
def ofText? (cs : List Char) : Option Verbosity :=
  if cs.isEmpty then some 1
  else match (Decimal.read? cs).filter (· ≤ 5) with
    | some n => some n
    | none => names.lookup (String.ofList (cs.map Char.toLower))

end Verbosity

structure Directive where
  verbosity : Verbosity
  /-- What the topic has to start with. -/
  target : Option String := none
  /-- The enclosing activity that the directive asks for. No event has one. -/
  span : Option String := none
  /-- The fields that an event has to have. -/
  fields : List String := []
  /-- Whether a field is also asked for a value, which no event is. -/
  constrained : Bool := false
deriving DecidableEq, Repr

inductive DirectiveError where
  | malformed
  | badLevel
deriving DecidableEq, Repr

def DirectiveError.message : DirectiveError → String
  | malformed => "invalid filter directive"
  | badLevel =>
    "error parsing level filter: expected one of \"off\", \"error\", \"warn\", \"info\", \"debug\", "
      ++ "\"trace\", or a number 0-5"

namespace Directive

/-- Where reading a directive stands. A number is the position at which a part began. -/
inductive Reading where
  | start
  | name (first : Nat)
  | span (first : Nat)
  | field (first : Nat)
  | fieldsDone
  | spanDone
  | level (first : Nat)
deriving DecidableEq, Repr

def slice (cs : List Char) (first last : Nat) : List Char := (cs.take last).drop first

/-- The characters with which a directive may begin, besides the bracket of a span. -/
def startsName (c : Char) : Bool :=
  c == '-' || c == ':' || c == '_' || c.isAlphanum || 0x80 ≤ c.toNat

/-- A field, which may be asked for a value after an equals sign. -/
def addField (d : Directive) (field : List Char) : Except DirectiveError Directive :=
  if field.isEmpty then .error .malformed
  else .ok { d with
    fields := d.fields ++ [String.ofList (field.takeWhile (· ≠ '='))]
    constrained := d.constrained || field.contains '=' }

def addSpan (d : Directive) (name : List Char) : Directive :=
  { d with span := if name.isEmpty then none else some (String.ofList name) }

/-- One character further, at a position of the directive `cs`. -/
def advance (cs : List Char) (state : Reading × Directive) (i : Nat) (c : Char) :
    Except DirectiveError (Reading × Directive) :=
  let (reading, d) := state
  match reading with
  | .start =>
    if c = '[' then .ok (.span (i + 1), d)
    else if startsName c then .ok (.name i, d)
    else .error .malformed
  | .name first =>
    let named := { d with target := some (String.ofList (slice cs first i)) }
    if c = '=' then .ok (.level (i + 1), named)
    else if c = '[' then .ok (.span (i + 1), named)
    else .ok state
  | .span first =>
    if c = ']' then .ok (.spanDone, { d with span := some (String.ofList (slice cs first i)) })
    else if c = '\x7b' then .ok (.field (i + 1), d.addSpan (slice cs first i))
    else .ok state
  | .field first =>
    if c = '\x7d' then do
      let d ← d.addField (slice cs first i)
      return (.fieldsDone, d)
    else .ok state
  | .fieldsDone => if c = ']' then .ok (.spanDone, d) else .error .malformed
  | .spanDone => if c = '=' then .ok (.level (i + 1), d) else .error .malformed
  | .level _ => .ok state

def readLevel (d : Directive) (level : List Char) : Except DirectiveError Directive :=
  if level.isEmpty then .ok { d with verbosity := 5 }
  else match Verbosity.ofText? level with
    | some v => .ok { d with verbosity := v }
    | none => .error .badLevel

/-- The end of a directive. A single word is a level if it can be read as one, and otherwise a target
of which everything is shown. -/
def finish (cs : List Char) : Reading × Directive → Except DirectiveError Directive
  | (.name first, d) =>
    match Verbosity.ofText? (cs.drop first) with
    | some v => .ok { d with verbosity := v, target := none }
    | none => .ok { d with verbosity := 5, target := some (String.ofList (cs.drop first)) }
  | (.level first, d) => d.readLevel (cs.drop first)
  | (.spanDone, d) => .ok d
  | _ => .error .malformed

def readFrom (cs : List Char) : Nat → Reading × Directive → List Char →
    Except DirectiveError (Reading × Directive)
  | _, state, [] => .ok state
  | i, state, c :: rest => do
    let next ← advance cs state i c
    readFrom cs (i + 1) next rest

/-- Positions are counted without leading white space, but parts are taken from the directive as it
is written. -/
def read (cs : List Char) : Except DirectiveError Directive := do
  let state ← readFrom cs 0 (.start, { verbosity := 5 }) (trim cs)
  finish cs state

/-- Whether a directive can decide about events by themselves. -/
def isStatic (d : Directive) : Bool := d.span.isNone && !d.constrained

def applies (d : Directive) (e : Event) : Bool :=
  (d.target.all fun t => t.toList.isPrefixOf e.topic.target.toList) &&
    d.fields.all fun f => e.fieldNames.contains f

/-- How specific a directive is: any target is more specific than none, and a longer one more than a
shorter one; then the number of fields decides. -/
def weight (d : Directive) : Nat × Nat :=
  ((d.target.map fun t => t.utf8ByteSize + 1).getD 0, d.fields.length)

/-- Whether the second directive is preferred to the first where both apply. -/
def yields (a b : Directive) : Bool :=
  a.weight.1 < b.weight.1 || (a.weight.1 == b.weight.1 && a.weight.2 ≤ b.weight.2)

end Directive

structure Filter where
  directives : List Directive
deriving DecidableEq, Repr

namespace Filter

/-- The most specific of some directives, the later one of two that are equally specific. -/
def mostSpecific : List Directive → Option Directive
  | [] => none
  | d :: ds =>
    match mostSpecific ds with
    | none => some d
    | some best => if d.yields best then some best else some d

def shows (f : Filter) (e : Event) : Bool :=
  match mostSpecific (f.directives.filter fun d => d.isStatic && d.applies e) with
  | some d => e.level.rank ≤ d.verbosity
  | none => false

/-- A filter without any directive shows errors. -/
def ofDirectives (ds : List Directive) : Filter :=
  ⟨if ds.isEmpty then [{ verbosity := 1 }] else ds⟩

/-- The line that reports a directive which cannot be read. -/
def complaint (cs : List Char) (e : DirectiveError) : String :=
  "ignoring `" ++ String.ofList cs ++ "`: " ++ e.message ++ "\n"

/-- A written filter, with the complaints about what could not be read of it. -/
def read (s : String) : List String × Filter :=
  let parts := (cut (· == ',') s.toList).filter (!·.isEmpty)
  let results := parts.map fun part => (part, Directive.read part)
  let complaints := results.filterMap fun (part, result) =>
    match result with
    | .ok _ => none
    | .error e => some (complaint part e)
  let directives := results.filterMap fun (_, result) => result.toOption
  (complaints, ofDirectives directives)

/-- The filter for a level given on the command line. The parts that speak to the network are never
heard below warnings. -/
def ofLevel (level : String) : String := level ++ ",ureq=warn,rustls=warn"

end Filter
end DocAnswers.Log
