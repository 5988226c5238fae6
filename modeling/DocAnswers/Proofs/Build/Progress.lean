import DocAnswers.Proofs.Run.Stages

/-! How far a build gets. The commands of its plan are run in order up to the first one that fails,
and the build fails with what that command failed with. -/
namespace DocAnswers.Build
open Attempt

/-- Commands run one after the other, after as many as the count says: which of them are run, and
what comes of it. -/
inductive Course (exec : Executor) :
    Nat → List (List String) → List (List String) → Except Failure Unit → Prop where
  | finished {count : Nat} : Course exec count [] [] (.ok ())
  | stopped {count words rest e} (failed : exec count words = .error e) :
      Course exec count (words :: rest) [words] (.error e)
  | further {count words rest ran result} (done : exec count words = .ok ())
      (later : Course exec (count + 1) rest ran result) :
      Course exec count (words :: rest) (words :: ran) result

theorem Toolchain.runAll_course (t : Toolchain) (exec : Executor) (count : Nat)
    (plan : List (List String)) :
    Course exec count (plan.map (t.compiler :: ·))
      (Effect.commands (t.runAll exec count plan).run.effects)
      (t.runAll exec count plan).run.value := by
  induction plan generalizing count with
  | nil => exact .finished
  | cons args plan ih =>
    have here : (t.run exec count args).run.value = exec count (t.compiler :: args) := rfl
    rw [runAll, List.map_cons]
    cases result : exec count (t.compiler :: args) with
    | error e =>
      rw [bind_error (here.trans result)]
      exact .stopped result
    | ok =>
      rw [bind_ok (here.trans result), Effect.commands_append]
      exact .further result (ih (count + 1))

namespace Course
variable {exec : Executor} {count : Nat} {commands ran : List (List String)}
  {result : Except Failure Unit}

/-- The commands are run up to the first one that fails, and all of them if none does. -/
theorem ran_eq_take (course : Course exec count commands ran result) :
    ran = commands.take
      ((commands.mapIdx fun i => exec (count + i)).findIdx (fun r => !r.isOk) + 1) := by
  induction course with
  | finished => rfl
  | stopped failed => simp [failed, Except.isOk, Except.toBool, List.mapIdx_cons, List.findIdx_cons]
  | @further count words rest ran result done later ih =>
    have outcomes : (fun i => exec (count + (i + 1))) = fun i => exec (count + 1 + i) := by
      funext i
      rw [Nat.add_assoc, Nat.add_comm 1]
    simpa [done, Except.isOk, Except.toBool, List.mapIdx_cons, List.findIdx_cons, outcomes] using ih

theorem ran_eq_of_succeeds (course : Course exec count commands ran result)
    (succeeds : ∀ n words, exec n words = .ok ()) : ran = commands := by
  induction course with
  | finished => rfl
  | @stopped count words rest e failed =>
    rw [succeeds] at failed
    contradiction
  | further done later ih => rw [ih]

theorem stops_at_failure (course : Course exec count commands ran result)
    (there : ran[i]? = some words) (failed : exec (count + i) words = .error e) :
    ran.length = i + 1 := by
  induction course generalizing i with
  | finished => simp at there
  | stopped =>
    cases i with
    | zero => rfl
    | succ i => simp at there
  | further done later ih =>
    cases i with
    | zero =>
      cases Option.some.inj there
      rw [Nat.add_zero, done] at failed
      contradiction
    | succ i =>
      rw [List.length_cons, ih there (by rwa [Nat.add_assoc, Nat.add_comm 1])]

theorem error_iff (course : Course exec count commands ran result) (e : Failure) :
    result = .error e ↔ ∃ i words, ran[i]? = some words ∧ exec (count + i) words = .error e := by
  induction course with
  | finished => simp
  | @stopped count words rest e' failed =>
    constructor
    · rintro ⟨⟩
      exact ⟨0, words, rfl, failed⟩
    · rintro ⟨i, other, there, failed'⟩
      cases i with
      | zero =>
        cases Option.some.inj there
        exact failed.symm.trans failed'
      | succ i => simp at there
  | @further count words rest ran result done later ih =>
    rw [ih]
    constructor
    · rintro ⟨i, other, there, failed⟩
      exact ⟨i + 1, other, there, by rwa [Nat.add_assoc, Nat.add_comm 1] at failed⟩
    · rintro ⟨i, other, there, failed⟩
      cases i with
      | zero =>
        cases Option.some.inj there
        rw [Nat.add_zero, done] at failed
        contradiction
      | succ i => exact ⟨i, other, there, by rwa [Nat.add_assoc, Nat.add_comm 1]⟩

/-- A command is run if, and only if, all commands before it succeed. -/
theorem reaches_iff (course : Course exec count commands ran result)
    (planned : commands[n]? = some words) :
    ran[n]? = some words ↔
      ∀ i < n, ∀ other, commands[i]? = some other → exec (count + i) other = .ok () := by
  induction course generalizing n with
  | finished => simp at planned
  | @stopped count words rest e failed =>
    cases n with
    | zero => simpa using planned
    | succ n =>
      refine ⟨fun there => by simp at there, fun all => ?_⟩
      rw [← Nat.add_zero count, all 0 (Nat.succ_pos n) words rfl] at failed
      contradiction
  | further done later ih =>
    cases n with
    | zero => simpa using planned
    | succ n =>
      rw [List.getElem?_cons_succ] at planned ⊢
      rw [ih planned]
      constructor
      · intro rest i before other there
        cases i with
        | zero =>
          cases Option.some.inj there
          exact done
        | succ i =>
          have later := rest i (Nat.lt_of_succ_lt_succ before) other there
          rwa [Nat.add_assoc, Nat.add_comm 1] at later
      · intro all i before other there
        rw [Nat.add_assoc, Nat.add_comm 1]
        exact all (i + 1) (Nat.succ_lt_succ before) other there

end Course
end DocAnswers.Build

namespace DocAnswers.Run
open Build

theorem build_course (o : Options) (s : Surroundings) (files : List Path) :
    Course s.exec 0 ((plan o s.workplace files).map (o.compiler :: ·))
      (Effect.commands (build o s files).run.effects) (build o s files).run.value := by
  rw [build_eq_runAll]
  exact Toolchain.runAll_course ⟨o.compiler⟩ s.exec 0 (plan o s.workplace files)

/-- A build runs its plan up to the first command that fails and fails with it. All sources are
linked together only when each of them is compiled. -/
theorem build_stops_at_first_failure (o : Options) (s : Surroundings) (files : List Path) :
    let commands := (plan o s.workplace files).map (o.compiler :: ·)
    let ran := Effect.commands (build o s files).run.effects
    let result := (build o s files).run.value
    ran = commands.take ((commands.mapIdx s.exec).findIdx (fun r => !r.isOk) + 1) ∧
    (∀ i words e, ran[i]? = some words → s.exec i words = .error e → ran.length = i + 1) ∧
    (∀ e, result = .error e ↔ ∃ i words, ran[i]? = some words ∧ s.exec i words = .error e) ∧
    (o.separate = false →
      (ran[files.length]? = some (o.compiler ::
          Toolchain.linkManyArguments (files.map objectPath) (programName o s.workplace)) ↔
        ∀ i source, files[i]? = some source →
          s.exec i (o.compiler :: Toolchain.compileArguments source) = .ok ())) := by
  intro commands ran result
  have course : Course s.exec 0 commands ran result := build_course o s files
  refine ⟨?_, ?_, ?_, ?_⟩
  · simpa only [Nat.zero_add] using course.ran_eq_take
  · intro i words e there failed
    exact course.stops_at_failure there (by rwa [Nat.zero_add])
  · simpa only [Nat.zero_add] using course.error_iff
  · intro joint
    have split : commands = files.map (fun source => o.compiler :: Toolchain.compileArguments source) ++
        [o.compiler ::
          Toolchain.linkManyArguments (files.map objectPath) (programName o s.workplace)] := by
      simp [commands, plan, joint, jointPlan]
    have compiled (i : Nat) (before : i < files.length) : commands[i]? =
        files[i]?.map fun source => o.compiler :: Toolchain.compileArguments source := by
      rw [split, List.getElem?_append_left (by simpa using before), List.getElem?_map]
    rw [course.reaches_iff (by simp [split])]
    simp only [Nat.zero_add]
    constructor
    · intro all i source there
      have before : i < files.length := (List.getElem?_eq_some_iff.mp there).1
      exact all i before _ (by rw [compiled i before, there, Option.map_some])
    · intro all i before words there
      rw [compiled i before] at there
      obtain ⟨source, listed, rfl⟩ := Option.map_eq_some_iff.mp there
      exact all i source listed

end DocAnswers.Run
