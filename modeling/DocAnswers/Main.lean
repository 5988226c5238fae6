import DocAnswers.FileTree.Listing
import DocAnswers.Program

/-! The command line. The names of the files that there are come from standard input, one on each
line. No page can be fetched and no command can be started from here: procedures are listed without
answers, and a build stops at its first command. -/
namespace DocAnswers.Main

/-- The variables of the environment that count. -/
def variableNames : List String := ["CC", "PBS_SEARCH_URL", "PBS_SITE", "PBS_TIMEOUT", "RUST_LOG"]

def readEnvironment : IO (List (String × String)) :=
  variableNames.filterMapM fun name => do
    return (← IO.getEnv name).map fun value => (name, value)

/-- The file of a name, if it can be read. -/
def readFile? (name : String) : IO (Option (Path × List UInt8)) := do
  try
    let bytes ← IO.FS.readBinFile name
    return some (⟨name⟩, bytes.toList)
  catch _ => return none

def readWorkplace : IO FileTree.Workplace := do
  let listing ← (← IO.getStdin).readToEnd
  let files ← (Text.lines listing).filterMapM readFile?
  let folder := (← IO.getEnv "PWD").getD "/"
  return .ofTree ⟨folder⟩ (.ofListing files [])

def noCommands : Build.Executor := fun _ words =>
  .error (.notStarted (words.head?.getD "") "Operation not permitted (os error 1)")

end DocAnswers.Main

open DocAnswers in
def main (args : List String) : IO UInt32 := do
  let surroundings : Surroundings :=
    { workplace := ← Main.readWorkplace, fetch := .unserved, exec := Main.noCommands }
  let seen := Program.start args (← Main.readEnvironment) surroundings
  (← IO.getStdout).putStr seen.stdout
  (← IO.getStderr).putStr seen.stderr
  return UInt32.ofNat seen.exit
