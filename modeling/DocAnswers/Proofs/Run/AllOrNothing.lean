import DocAnswers.Program
import DocAnswers.Proofs.Run.Stages

/-! A run prints the whole report or nothing, and starts no command before that. Whether it succeeds
is settled by the sources and the build. -/
namespace DocAnswers.Run
open Attempt FileTree

variable {o : Options} {s : Surroundings}

/-- The report is printed in one go, when everything is read and no command is started yet. -/
theorem run_effects {sources : List Source} (prepared : Prepared o s.workplace sources) :
    ∃ before, (∀ e ∈ before, e.kind ∈ [.note, .request]) ∧
      (run o s).run.effects =
        before ++ .print (render o.format (reportOf o s.fetch sources)) ::
          (finish o s (sources.map (·.path))).run.effects := by
  rw [run_prepared prepared, ← List.append_assoc]
  refine ⟨_, fun e member => ?_, rfl⟩
  rcases List.mem_append.mp member with finding | reading
  · exact ((sources_only o s.workplace).mono (by simp)) e finding
  · obtain ⟨source, -, there⟩ := List.mem_flatMap.mp reading
    exact entriesOf_only o s source.toInput e there

theorem run_printed {sources : List Source} (prepared : Prepared o s.workplace sources) :
    Effect.printed (run o s).run.effects = render o.format (reportOf o s.fetch sources) := by
  obtain ⟨before, early, effects⟩ := run_effects prepared
  rw [effects]
  apply Effect.printed_eq_of_once
  · exact fun e member is => by simpa [is] using early e member
  · exact fun e member is => by simpa [is] using finish_only o s _ e member

/-- The commands of a run are those of its build. -/
theorem commands_run {sources : List Source} (prepared : Prepared o s.workplace sources) :
    Effect.commands (run o s).run.effects =
      Effect.commands (finish o s (sources.map (·.path))).run.effects := by
  obtain ⟨before, early, effects⟩ := run_effects prepared
  have printing (text : String) (es : List Effect) :
      Effect.commands (.print text :: es) = Effect.commands es := rfl
  have reading : Effect.commands before = [] :=
    Effect.commands_eq_nil fun e member is => by simpa [is] using early e member
  rw [effects, Effect.commands_append, printing, reading, List.nil_append]

theorem run_only_of_unprepared (unprepared : ∀ sources, ¬Prepared o s.workplace sources) :
    (run o s).Only [.note, .request] := by
  rcases stopped_or_prepared o s with ⟨e, -, only⟩ | ⟨sources, prepared⟩
  · exact only
  · exact absurd prepared (unprepared sources)

theorem run_isOk_iff (o : Options) (s : Surroundings) :
    (run o s).run.value.isOk = true ↔ ∃ sources, Prepared o s.workplace sources ∧
      (o.build = false ∨ sources = [] ∨
        ∀ i args, (plan o s.workplace (sources.map (·.path)))[i]? = some args →
          s.exec i (o.compiler :: args) = .ok ()) := by
  constructor
  · intro done
    rcases stopped_or_prepared o s with ⟨e, failed, -⟩ | ⟨sources, prepared⟩
    · simp [failed, Except.isOk, Except.toBool] at done
    · rw [run_prepared prepared, finish_isOk_iff, List.map_eq_nil_iff] at done
      exact ⟨sources, prepared, done⟩
  · rintro ⟨sources, prepared, built⟩
    rw [run_prepared prepared, finish_isOk_iff, List.map_eq_nil_iff]
    exact built

/-- A run whose arguments lead to something other than sources of known languages has no effect but
notes. One with a source that cannot be read prints nothing and starts no command. Any other prints
its whole report in one go and then builds. -/
theorem start_prints_all_or_nothing {args : List String} {env : List (String × String)}
    (accepted : CommandLine.read args env = .ok o) (s : Surroundings) :
    let seen := Program.start args env s
    (Unrecognised o s.workplace → seen.exit = 1 ∧ seen.stdout = "" ∧ (run o s).Only [.note]) ∧
    (Unreadable o s.workplace →
      seen.exit = 1 ∧ seen.stdout = "" ∧ (run o s).Only [.note, .request]) ∧
    (¬Unrecognised o s.workplace → ¬Unreadable o s.workplace →
      ∃ sources, Prepared o s.workplace sources ∧
        let report := render o.format (reportOf o s.fetch sources)
        seen.stdout = report ∧
        (∀ exec, (Program.start args env { s with exec }).stdout = report) ∧
        ∃ before after, (run o s).run.effects = before ++ .print report :: after ∧
          (∀ e ∈ before, e.kind ∈ [.note, .request]) ∧
          (∀ e ∈ after, e.kind ∈ [.note, .command]) ∧
          Effect.commands after <+:
            (plan o s.workplace (sources.map (·.path))).map (o.compiler :: ·)) ∧
    (seen.exit = 0 ↔ ∃ sources, Prepared o s.workplace sources ∧
      (o.build = false ∨ sources = [] ∨
        ∀ i args, (plan o s.workplace (sources.map (·.path)))[i]? = some args →
          s.exec i (o.compiler :: args) = .ok ())) ∧
    ∀ fetch, (Program.start args env { s with fetch }).exit = seen.exit := by
  simp only [Program.start_of_read accepted]
  refine ⟨?_, ?_, ?_, ?_, ?_⟩
  · intro unrecognised
    obtain ⟨e, stopped⟩ := run_unrecognised unrecognised
    have only : (run o s).Only [.note] := by
      rw [Only, stopped]
      exact sources_only o s.workplace
    exact ⟨Program.outcome_exit_of_error _ (congrArg Traced.value stopped),
      only.printed_eq_empty (by decide), only⟩
  · intro unreadable
    obtain ⟨e, stopped, only⟩ := run_unreadable unreadable
    exact ⟨Program.outcome_exit_of_error _ stopped, only.printed_eq_empty (by decide), only⟩
  · intro recognised readable
    obtain ⟨sources, prepared⟩ := exists_prepared_iff.mpr ⟨recognised, readable⟩
    obtain ⟨before, early, effects⟩ := run_effects prepared
    refine ⟨sources, prepared, run_printed prepared, fun exec => ?_, before, _, effects, early,
      finish_only o s _, finish_commands_prefix o s _⟩
    exact run_printed (s := { s with exec }) prepared
  · exact (Program.outcome_exit_eq_zero_iff _ _).trans (run_isOk_iff o s)
  · -- What decides the exit status does not mention the fetcher.
    intro fetch
    have same : (run o { s with fetch }).run.value.isOk = (run o s).run.value.isOk :=
      Bool.eq_iff_iff.mpr ((run_isOk_iff o { s with fetch }).trans (run_isOk_iff o s).symm)
    simp only [Program.outcome, same]

/-- The first source would be reported and built, but the file after it is not of a known language.
-/
theorem start_prints_all_or_nothing_late :
    let source := FileTree.file (some " * Adds one.\nint next(int n)\n".toUTF8.toList)
    let folder := FileTree.folder true [("a.c", source), ("notes.txt", .file (some []))]
    let s : Surroundings :=
      { workplace := ⟨⟨folder, []⟩, none⟩, fetch := .unserved, exec := fun _ _ => .ok () }
    let seen := Program.start ["a.c", "notes.txt"] [] s
    seen.exit = 1 ∧ seen.stdout = "" ∧ (run { paths := ["a.c", "notes.txt"] } s).Only [.note] := by
  intro source folder s
  have accepted : CommandLine.read ["a.c", "notes.txt"] [] =
      .ok { paths := ["a.c", "notes.txt"] } := by rfl
  have found : expanded { paths := ["a.c", "notes.txt"] } s.workplace =
      .ok [⟨"a.c"⟩, ⟨"notes.txt"⟩] := by rfl
  exact (start_prints_all_or_nothing accepted s).1
    (.inr ⟨_, found, ⟨"notes.txt"⟩, .tail _ List.mem_cons_self, by rfl⟩)

end DocAnswers.Run
