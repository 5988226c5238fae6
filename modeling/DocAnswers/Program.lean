import DocAnswers.CommandLine.Read
import DocAnswers.Log.Filter
import DocAnswers.Run

/-! The program as its user sees it: from a command line and an environment to an exit status and two
texts. -/
namespace DocAnswers

structure Outcome where
  exit : Nat
  stdout : String := ""
  stderr : String := ""
deriving DecidableEq, Repr

namespace Program

/-- The text of the filter for what is shown of the log. -/
def filterText (o : Options) (env : List (String × String)) : String :=
  (env.lookup "RUST_LOG").getD (Log.Filter.ofLevel o.logLevel)

/-- The lines of the events that a filter shows. -/
def logText (f : Log.Filter) (effects : List Effect) : String :=
  String.join (((Effect.events effects).filter f.shows).map (·.line))

def failureText : Except Failure Unit → String
  | .ok _ => ""
  | .error failure => failure.report

/-- What is seen of an attempt, under a filter. -/
def outcome (filter : List String × Log.Filter) (attempt : Attempt Unit) : Outcome :=
  let done := attempt.run
  { exit := if done.value.isOk then 0 else 1
    stdout := Effect.printed done.effects
    stderr := String.join filter.1 ++ logText filter.2 done.effects ++ failureText done.value }

/-- The settings and the switches, in whatever wording. -/
def usage : String :=
  "Usage: pbs [OPTIONS] [PATHS]...\n\nOptions:\n" ++
    String.join (CommandLine.Setting.all.map fun s => "  --" ++ s.name ++ " <VALUE>\n") ++
    String.join (CommandLine.Switch.all.map fun s => "  --" ++ s.name ++ "\n")

def start (args : List String) (env : List (String × String)) (s : Surroundings) : Outcome :=
  match CommandLine.read args env with
  | .error .help => { exit := 0, stdout := usage }
  | .error (.misuse e) => { exit := 2, stderr := "error: " ++ e.message ++ "\n\n" ++ usage }
  | .ok o => outcome (Log.Filter.read (filterText o env)) (run o s)

theorem outcome_exit_eq_zero_iff (filter : List String × Log.Filter) (attempt : Attempt Unit) :
    (outcome filter attempt).exit = 0 ↔ attempt.run.value.isOk = true := by
  simp only [outcome]
  split <;> simp_all

theorem outcome_exit_of_error {attempt : Attempt Unit} (filter : List String × Log.Filter)
    (failed : attempt.run.value = .error e) : (outcome filter attempt).exit = 1 := by
  rw [outcome, failed]
  rfl

theorem start_of_read {args : List String} {env : List (String × String)}
    (accepted : CommandLine.read args env = .ok o) (s : Surroundings) :
    start args env s = outcome (Log.Filter.read (filterText o env)) (run o s) := by
  rw [start, accepted]

/-- What is refused is refused in the same way wherever it is. -/
theorem start_congr_of_error {args args' : List String} {env env' : List (String × String)}
    (refused : CommandLine.read args env = .error stop)
    (refused' : CommandLine.read args' env' = .error stop) (s : Surroundings) :
    start args env s = start args' env' s := by
  rw [start, start, refused, refused']
  cases stop <;> rfl

end Program
end DocAnswers
