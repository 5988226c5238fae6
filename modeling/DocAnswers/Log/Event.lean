import DocAnswers.Text.Quoted

/-! What the program says about its own work: events with a level, a topic and fields, and the line of
text that shows one. -/
namespace DocAnswers.Log
open Text

inductive Level where
  | error
  | warn
  | info
  | debug
  | trace
deriving DecidableEq, Repr

namespace Level

/-- How talkative a listener has to be to hear the level: the more severe, the lower. -/
def rank : Level → Nat
  | error => 1
  | warn => 2
  | info => 3
  | debug => 4
  | trace => 5

/-- The name of the level, filled up to five characters on the left. -/
def label : Level → String
  | error => "ERROR"
  | warn => " WARN"
  | info => " INFO"
  | debug => "DEBUG"
  | trace => "TRACE"

end Level

/-- The part of the program that an event is about. -/
inductive Topic where
  | run
  | sources
  | build
  | lookup
  | page
deriving DecidableEq, Repr

/-- The name by which filters select a topic. -/
def Topic.target : Topic → String
  | run => "pbs"
  | sources => "pbs::sources"
  | build => "pbs::compile"
  | lookup => "pbs_lookup"
  | page => "pbs_lookup::page"

inductive Value where
  /-- Shown as it is. -/
  | bare (text : String)
  /-- Shown in quotes. -/
  | quoted (text : String)
deriving DecidableEq, Repr

def Value.render : Value → String
  | bare text => text
  | quoted text => Quoted.encode text

structure Event where
  level : Level
  topic : Topic
  message : String
  fields : List (String × Value) := []
deriving DecidableEq, Repr

namespace Event

def renderField (field : String × Value) : String := " " ++ field.1 ++ "=" ++ field.2.render

/-- The line that shows an event, with its line feed. -/
def line (e : Event) : String :=
  e.level.label ++ " " ++ Quoted.disarm e.message ++ String.join (e.fields.map renderField) ++ "\n"

/-- The names that a filter can ask an event for. -/
def fieldNames (e : Event) : List String := "message" :: e.fields.map (·.1)

end Event
end DocAnswers.Log
