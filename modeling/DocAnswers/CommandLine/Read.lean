import DocAnswers.CommandLine.Word

/-! Reading a command line and the environment into options. Nothing may be given twice. -/
namespace DocAnswers.CommandLine

inductive UsageError where
  | unknown (word : String)
  | missingValue (setting : Setting)
  | badValue (setting : Setting) (value : String)
  | repeatedSetting (setting : Setting)
  | repeatedSwitch (switch : Switch)
  | attachedValue (switch : Switch) (value : String)
deriving DecidableEq, Repr

/-- What is wrong, in whatever wording. -/
def UsageError.message : UsageError → String
  | unknown word => "unexpected argument '" ++ word ++ "' found"
  | missingValue s => "a value is required for '--" ++ s.name ++ "' but none was supplied"
  | badValue s value => "invalid value '" ++ value ++ "' for '--" ++ s.name ++ "'"
  | repeatedSetting s => "the argument '--" ++ s.name ++ "' cannot be used multiple times"
  | repeatedSwitch s => "the argument '--" ++ s.name ++ "' cannot be used multiple times"
  | attachedValue s value =>
    "unexpected value '" ++ value ++ "' for '--" ++ s.name ++ "' found; no more were expected"

/-- Why there are no options to run with. -/
inductive Stop where
  /-- Only help is wanted. -/
  | help
  | misuse (error : UsageError)
deriving DecidableEq, Repr

/-- What has been read so far. -/
structure Given where
  options : Options := {}
  settings : List Setting := []
  switches : List Switch := []
deriving DecidableEq, Repr

namespace Given

def addPaths (g : Given) (paths : List String) : Given :=
  { g with options := { g.options with paths := g.options.paths ++ paths } }

def set (g : Given) (s : Setting) (value : String) : Except Stop Given :=
  if g.settings.contains s then .error (.misuse (.repeatedSetting s))
  else match s.assign? value g.options with
    | none => .error (.misuse (.badValue s value))
    | some options => .ok { g with options, settings := s :: g.settings }

def turnOn (g : Given) (s : Switch) (attached : Option String) : Except Stop Given :=
  match attached with
  | some value => .error (.misuse (.attachedValue s value))
  | none =>
    if s = .help then .error .help
    else if g.switches.contains s then .error (.misuse (.repeatedSwitch s))
    else .ok { g with options := s.apply g.options, switches := s :: g.switches }

/-- Whether a word can be the value of the setting before it. -/
def canBeValue (s : Setting) (text : String) : Bool :=
  s.takesAnything || (match Word.ofText text with | .operand _ => true | _ => false)

def read (g : Given) : List String → Except Stop Given
  | [] => .ok g
  | text :: rest =>
    match Word.ofText text with
    | .operand path => read (g.addPaths [path]) rest
    | .divider => .ok (g.addPaths rest)
    | .unknown => .error (.misuse (.unknown text))
    | .switch s attached => do
      let g ← g.turnOn s attached
      read g rest
    | .setting s (some value) => do
      let g ← g.set s value
      read g rest
    | .setting s none =>
      match rest with
      | [] => .error (.misuse (.missingValue s))
      | value :: rest =>
        if canBeValue s value then do
          let g ← g.set s value
          read g rest
        else .error (.misuse (.missingValue s))

/-- Takes a setting from the environment, unless it has been given. -/
def fillOne (env : List (String × String)) (g : Given) (s : Setting) : Except Stop Given :=
  match s.environmentName?.bind fun name => env.lookup name with
  | none => .ok g
  | some value => if g.settings.contains s then .ok g else g.set s value

def fill (env : List (String × String)) (g : Given) : Except Stop Given :=
  Setting.all.foldlM (fillOne env) g

end Given

/-- The options that a command line and an environment stand for. -/
def read (args : List String) (env : List (String × String)) : Except Stop Options := do
  let g ← Given.read {} args
  let g ← g.fill env
  return g.options

end DocAnswers.CommandLine
