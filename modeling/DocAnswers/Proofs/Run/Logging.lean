import DocAnswers.Proofs.CommandLine.Clauses
import DocAnswers.Proofs.Log.Laxer

/-! What is shown of the log depends on the options and on the environment, but what a run does and
comes to does not depend on what is shown of it. -/
namespace DocAnswers

namespace CommandLine

theorem logLevel_only : Item.Only (.setting .logLevel) fun o => { o with logLevel := "info" } where
  initial := rfl
  paths := fun _ _ => rfl
  assign := fun s other value o => by
    cases s with
    | timeout | format => simp only [Setting.assign?, Option.map_map]; rfl
    | logLevel => contradiction
    | _ => rfl
  apply := fun s _ o => by cases s <;> rfl
  assigned := fun s own value o => by
    cases own
    exact ⟨_, rfl, rfl⟩
  applied := fun s own => by contradiction
  unset := fun s own => by
    cases own
    rfl

/-- The filter for the log is none of the settings in the environment. -/
theorem ne_of_environmentName? {s : Setting} (named : s.environmentName? = some name) :
    name ≠ "RUST_LOG" := by
  cases s <;> cases named <;> decide

/-- The level of the log and the filter in the environment make no difference but to the level. -/
theorem read_leveled {args args' : List String} {env env' : List (String × String)}
    (once : (given (.setting .logLevel) args).length ≤ 1)
    (once' : (given (.setting .logLevel) args').length ≤ 1)
    (same : apartFrom (.setting .logLevel) args = apartFrom (.setting .logLevel) args')
    (others : ∀ name, name ≠ "RUST_LOG" → env.lookup name = env'.lookup name) :
    (read args env).map (fun o => { o with logLevel := "info" }) =
      (read args' env').map fun o => { o with logLevel := "info" } := by
  have surroundings : read args' env = read args' env' :=
    read_congr (fun _ name named => others name (ne_of_environmentName? named)) args'
  rw [← surroundings]
  exact read_alike logLevel_only once once' same env

end CommandLine

namespace Run
open CommandLine Log
variable {args args' : List String} {env env' : List (String × String)} {s : Surroundings}

/-- A run does not ask for the level of the log. -/
theorem run_leveled {o o' : Options} (s : Surroundings)
    (same : { o with logLevel := "info" } = { o' with logLevel := "info" }) : run o s = run o' s :=
  calc run o s = run { o with logLevel := "info" } s := rfl
    _ = run { o' with logLevel := "info" } s := by rw [same]
    _ = run o' s := rfl

/-- The log of a run that is given a level by its name and no filter in the environment. -/
theorem stderr_of_level {o : Options} (accepted : CommandLine.read args env = .ok o)
    (unfiltered : env.lookup "RUST_LOG" = none) {v : Verbosity}
    (named : (o.logLevel, v) ∈ Verbosity.names) (s : Surroundings) :
    (Program.start args env s).stderr =
      String.join (Program.logLines (.ofVerbosity v) (run o s).run.effects) ++
        Program.failureText (run o s).run.value := by
  have filter : Filter.read (Program.filterText o env) = ([], .ofVerbosity v) := by
    rw [Program.filterText, unfiltered]
    exact Filter.read_ofLevel named
  rw [Program.start_of_read accepted, filter, Program.outcome, Program.logText_eq_join]
  simp only [String.join_nil, String.empty_append]

/-- Two runs whose command lines differ at most in the level of the log, and whose environments differ
at most in its filter, do the same, end in the same way and print the same. If both are given a level
by its name, the stricter one of them shows some of the lines that the laxer one shows. -/
theorem logging_changes_no_result
    (once : (given (.setting .logLevel) args).length ≤ 1)
    (once' : (given (.setting .logLevel) args').length ≤ 1)
    (same : apartFrom (.setting .logLevel) args = apartFrom (.setting .logLevel) args')
    (others : ∀ name, name ≠ "RUST_LOG" → env.lookup name = env'.lookup name)
    (s : Surroundings) :
    let seen := Program.start args env s
    let seen' := Program.start args' env' s
    seen'.exit = seen.exit ∧ seen'.stdout = seen.stdout ∧
    (∀ stop, CommandLine.read args env = .error stop ↔ CommandLine.read args' env' = .error stop) ∧
    ∀ o o', CommandLine.read args env = .ok o → CommandLine.read args' env' = .ok o' →
      run o' s = run o s ∧
      (env.lookup "RUST_LOG" = none → env'.lookup "RUST_LOG" = none →
        ∀ v v', (o.logLevel, v) ∈ Verbosity.names → (o'.logLevel, v') ∈ Verbosity.names → v ≤ v' →
          let lines (v : Verbosity) := Program.logLines (.ofVerbosity v) (run o s).run.effects
          let failure := Program.failureText (run o s).run.value
          seen.stderr = String.join (lines v) ++ failure ∧
          seen'.stderr = String.join (lines v') ++ failure ∧ (lines v).Sublist (lines v')) := by
  have options := read_leveled once once' same others
  cases accepted : CommandLine.read args env with
  | error stop =>
    cases accepted' : CommandLine.read args' env' with
    | ok o' => simp [accepted, accepted', Except.map] at options
    | error stop' =>
      obtain rfl : stop = stop' := by simpa [accepted, accepted', Except.map] using options
      rw [Program.start_congr_of_error accepted' accepted]
      exact ⟨rfl, rfl, fun _ => Iff.rfl, fun o o' impossible => by contradiction⟩
  | ok o =>
    cases accepted' : CommandLine.read args' env' with
    | error stop' => simp [accepted, accepted', Except.map] at options
    | ok o' =>
      have alike : run o' s = run o s :=
        run_leveled s (by simpa [accepted, accepted', Except.map] using options.symm)
      refine ⟨?_, ?_, by simp, ?_⟩
      · rw [Program.start_of_read accepted, Program.start_of_read accepted', alike]
        rfl
      · rw [Program.start_of_read accepted, Program.start_of_read accepted', alike]
        rfl
      · rintro _ _ ⟨⟩ ⟨⟩
        refine ⟨alike, fun unfiltered unfiltered' v v' named named' le => ⟨?_, ?_, ?_⟩⟩
        · exact stderr_of_level accepted unfiltered named s
        · rw [stderr_of_level accepted' unfiltered' named', alike]
        · exact Program.logLines_sublist (Filter.ofVerbosity_laxer le) _

/-- A source that is no text, read by a run that tells of it and by one that tells of more. -/
theorem logging_changes_no_result_lossy :
    let folder := FileTree.folder true [("a.c", .file (some [0xff]))]
    let s : Surroundings :=
      { workplace := ⟨⟨folder, []⟩, none⟩, fetch := .unserved, exec := fun _ _ => .ok () }
    let o : Options := { paths := ["a.c"], build := false, format := .json, logLevel := "warn" }
    let seen := Program.start ["a.c", "-f", "json", "--log-level", "warn", "--no-build"] [] s
    let seen' := Program.start ["--log-level=debug", "a.c", "--format=json", "--no-build"] [] s
    let failure := Program.failureText (run o s).run.value
    let lines (v : Verbosity) := Program.logLines (.ofVerbosity v) (run o s).run.effects
    lines 2 = [(lossy ⟨"a.c"⟩).line] ∧ seen'.exit = seen.exit ∧ seen'.stdout = seen.stdout ∧
      seen.stderr = String.join (lines 2) ++ failure ∧
      seen'.stderr = String.join (lines 4) ++ failure ∧ (lines 2).Sublist (lines 4) := by
  intro folder s o seen seen' failure lines
  obtain ⟨exit, stdout, -, runs⟩ := @logging_changes_no_result
    ["a.c", "-f", "json", "--log-level", "warn", "--no-build"]
    ["--log-level=debug", "a.c", "--format=json", "--no-build"] [] []
    (by decide) (by decide) (by decide) (fun _ _ => rfl) s
  obtain ⟨-, shown⟩ := runs o { o with logLevel := "debug" } rfl rfl
  exact ⟨by decide +kernel, exit, stdout, shown rfl rfl 2 4 (by decide) (by decide) (by decide)⟩

end Run
end DocAnswers
