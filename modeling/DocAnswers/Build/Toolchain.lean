import DocAnswers.Sources

/-! A compiler that turns C sources into objects next to them and links objects into programs.
Commands go to an executor, which learns how many commands came before and decides whether the
command succeeds. -/
namespace DocAnswers.Build

abbrev Executor := Nat → List String → Except Failure Unit

/-- The object next to a source. -/
def objectPath (source : Path) : Path := source.withExtension "o"

/-- The program next to an object. -/
def programPath (object : Path) : Path := object.withExtension ""

structure Toolchain where
  compiler : String
deriving DecidableEq, Repr

namespace Toolchain

def compileArguments (source : Path) : List String :=
  ["-c", source.text, "-o", (objectPath source).text]

def linkArguments (object : Path) : List String :=
  [object.text, "-o", (programPath object).text]

/-- Objects are linked in the order of their texts. -/
def linkManyArguments (objects : List Path) (program : Path) : List String :=
  (objects.map (·.text)).mergeSort (fun a b => !(b < a)) ++ ["-o", program.text]

def announcement (words : List String) : Log.Event :=
  { level := .info, topic := .build, message := " ".intercalate words }

/-- Runs the compiler, after as many commands as the count says. -/
def run (t : Toolchain) (exec : Executor) (count : Nat) (args : List String) : Attempt Unit :=
  let words := t.compiler :: args
  ExceptT.mk ⟨[.note (announcement words), .command words], exec count words⟩

def compile (t : Toolchain) (exec : Executor) (count : Nat) (source : Path) : Attempt Path := do
  t.run exec count (compileArguments source)
  return objectPath source

def link (t : Toolchain) (exec : Executor) (count : Nat) (object : Path) : Attempt Path := do
  t.run exec count (linkArguments object)
  return programPath object

def linkMany (t : Toolchain) (exec : Executor) (count : Nat) (objects : List Path)
    (program : Path) : Attempt Unit :=
  t.run exec count (linkManyArguments objects program)

/-- Compiles a source and links it into a program of its own. -/
def make (t : Toolchain) (exec : Executor) (count : Nat) (source : Path) : Attempt Path := do
  let object ← t.compile exec count source
  t.link exec (count + 1) object

/-- Makes one program of each source. -/
def makeAll (t : Toolchain) (exec : Executor) : Nat → List Path → Attempt Unit
  | _, [] => return ()
  | count, source :: sources => do
    let _ ← t.make exec count source
    makeAll t exec (count + 2) sources

def compileAll (t : Toolchain) (exec : Executor) : Nat → List Path → Attempt (List Path)
  | _, [] => return []
  | count, source :: sources => do
    let object ← t.compile exec count source
    let objects ← compileAll t exec (count + 1) sources
    return object :: objects

/-- Makes one program of all sources. -/
def makeJoint (t : Toolchain) (exec : Executor) (sources : List Path) (program : Path) :
    Attempt Unit := do
  let objects ← t.compileAll exec 0 sources
  t.linkMany exec sources.length objects program

end Toolchain
end DocAnswers.Build
