import DocAnswers.Build.Toolchain
import DocAnswers.CommandLine.Options
import DocAnswers.Lookup.Basic
import DocAnswers.Report.Basic
import DocAnswers.Text.Lines
import DocAnswers.Text.Utf8

/-! A run: the sources are found, their languages are told, their documented procedures are read and
answers are looked up for them, the report is printed, and the sources are built. Each stage needs
the one before it, and nothing is printed or built unless all sources could be read. -/
namespace DocAnswers
open FileTree

/-- What a run works on and with. -/
structure Surroundings where
  workplace : Workplace
  fetch : Fetcher
  exec : Build.Executor

namespace Run

def note (e : Log.Event) : Attempt Unit := ExceptT.lift (Traced.note e)

def noSources : Log.Event := { level := .warn, topic := .run, message := "no source files found" }

/-- The sources that the options ask for. Those of the current folder are meant if none are named. -/
def sources (o : Options) (w : Workplace) : Attempt (List Path) := do
  let files ← Sources.expand w (if o.paths.isEmpty then ["."] else o.paths)
  if files.isEmpty then note noSources
  return files

/-- A source with its language. -/
structure Input where
  path : Path
  language : Language
deriving DecidableEq, Repr

def Input.ofPath (p : Path) : Except Failure Input :=
  match Language.ofPath? p with
  | none => .error (.unknownLanguage p)
  | some language => .ok ⟨p, language⟩

/-- The bytes of a file. -/
def bytes (w : Workplace) (p : Path) : Except Failure (List UInt8) :=
  match w.find? p with
  | none => .error (.unreadableSource p "No such file or directory (os error 2)")
  | some ⟨.folder _ _, _⟩ => .error (.unreadableSource p "Is a directory (os error 21)")
  | some ⟨.file none, _⟩ => .error (.unreadableSource p "Permission denied (os error 13)")
  | some ⟨.file (some content), _⟩ => .ok content

def lossy (p : Path) : Log.Event :=
  { level := .warn, topic := .run, message := "source is not valid UTF-8, decoding lossily",
    fields := [("file", .bare p.text)] }

/-- The text of a source. What is not text in it is replaced. -/
def readText (w : Workplace) (p : Path) : Attempt String := do
  let content ← ExceptT.mk (pure (bytes w p))
  if !Text.Utf8.isValid content then note (lossy p)
  return String.ofList (Text.Utf8.decode content)

def parsed (p : Path) (found : Comment.Procedures) : Log.Event :=
  { level := .debug, topic := .run, message := "parsed",
    fields := [("file", .bare p.text), ("procedures", .bare (toString found.length))] }

/-- The documented procedures of a source. -/
def procedures (o : Options) (w : Workplace) (p : Path) : Attempt Comment.Procedures := do
  let content ← readText w p
  let found := Comment.Procedures.ofLines o.convention (Text.lines content)
  note (parsed p found)
  return found

def answered (p : Comment.Procedure) (answer : String) : Log.Event :=
  { level := .info, topic := .run,
    message := "Found this answer for procedure '" ++ p.signature ++ "' described as '" ++ p.doc ++
      "':\n " ++ answer }

/-- The answer for a procedure, if answers are wanted. -/
def answer (o : Options) (fetch : Fetcher) (language : Language) (p : Comment.Procedure) :
    Traced (Option String) :=
  if o.lookup then do
    let lookup : Lookup := { engine := o.engine, fetch }
    let answer ← lookup.search (Search.query p.doc (some language.name))
    Traced.note (answered p answer)
    return some answer
  else return none

def entry (o : Options) (fetch : Fetcher) (input : Input) (p : Comment.Procedure) : Traced Entry := do
  return {
    file := input.path.text
    language := input.language.name
    procedure := p.signature
    comment := p.doc
    answer := ← answer o fetch input.language p }

/-- The entries for one source. -/
def entriesOf (o : Options) (s : Surroundings) (input : Input) : Attempt (List Entry) := do
  let found ← procedures o s.workplace input.path
  ExceptT.lift (found.mapM (entry o s.fetch input))

def report (o : Options) (s : Surroundings) (inputs : List Input) : Attempt Report := do
  return ⟨(← inputs.mapM (entriesOf o s)).flatten⟩

def render (format : Format) (r : Report) : String :=
  match format with
  | .text => r.text
  | .json => r.json

/-- What a program is called that has no other name: after the current folder, if that has one. -/
def programName (o : Options) (w : Workplace) : Path :=
  match o.program with
  | some name => ⟨name⟩
  | none => ⟨w.name.getD "a.out"⟩

def build (o : Options) (s : Surroundings) (files : List Path) : Attempt Unit :=
  let toolchain : Build.Toolchain := ⟨o.compiler⟩
  if o.separate then toolchain.makeAll s.exec 0 files
  else toolchain.makeJoint s.exec files (programName o s.workplace)

end Run

open Run in
def run (o : Options) (s : Surroundings) : Attempt Unit := do
  let files ← sources o s.workplace
  let inputs ← ExceptT.mk (pure (files.mapM Input.ofPath))
  let found ← report o s inputs
  ExceptT.lift (Traced.act (.print (render o.format found)))
  if o.build && !files.isEmpty then build o s files

end DocAnswers
