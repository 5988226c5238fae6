import DocAnswers.Build.Toolchain
import DocAnswers.Proofs.Attempt

/-! The plan of a build is the list of the argument lists of its commands, settled before the first
of them starts. Both kinds of build run their plan until a command fails. -/
namespace DocAnswers.Build
open Attempt

/-- One program of each source: every source is compiled and linked before the next one. -/
def separatePlan (sources : List Path) : List (List String) :=
  sources.flatMap fun source =>
    [Toolchain.compileArguments source, Toolchain.linkArguments (objectPath source)]

/-- One program of all sources: all are compiled, then their objects are linked. -/
def jointPlan (sources : List Path) (program : Path) : List (List String) :=
  sources.map Toolchain.compileArguments ++
    [Toolchain.linkManyArguments (sources.map objectPath) program]

namespace Toolchain
variable (t : Toolchain) (exec : Executor)

/-- Runs commands in order, after as many as the count says, and stops at the first that fails. -/
def runAll : Nat → List (List String) → Attempt Unit
  | _, [] => return ()
  | count, args :: rest => do
    t.run exec count args
    runAll (count + 1) rest

theorem runAll_append (count : Nat) (plan more : List (List String)) :
    t.runAll exec count (plan ++ more) =
      t.runAll exec count plan >>= fun _ => t.runAll exec (count + plan.length) more := by
  induction plan generalizing count with
  | nil => simp only [List.nil_append, runAll, pure_bind, List.length_nil, Nat.add_zero]
  | cons args plan ih =>
    simp only [List.cons_append, runAll, ih, bind_assoc, List.length_cons, Nat.add_assoc,
      Nat.add_comm 1]

theorem makeAll_eq_runAll (count : Nat) (sources : List Path) :
    t.makeAll exec count sources = t.runAll exec count (separatePlan sources) := by
  induction sources generalizing count with
  | nil => rfl
  | cons source sources ih =>
    simp only [makeAll, make, compile, link, ih, separatePlan, List.flatMap_cons, List.cons_append,
      List.nil_append, runAll, bind_assoc, pure_bind]

theorem compileAll_eq_runAll (count : Nat) (sources : List Path) :
    t.compileAll exec count sources =
      t.runAll exec count (sources.map compileArguments) >>= fun _ =>
        return sources.map objectPath := by
  induction sources generalizing count with
  | nil => simp [compileAll, runAll]
  | cons source sources ih =>
    simp only [compileAll, compile, ih, List.map_cons, runAll, bind_assoc, pure_bind]

theorem makeJoint_eq_runAll (sources : List Path) (program : Path) :
    t.makeJoint exec sources program = t.runAll exec 0 (jointPlan sources program) := by
  rw [makeJoint, compileAll_eq_runAll, jointPlan, runAll_append]
  simp only [bind_assoc, pure_bind, linkMany, runAll, List.length_map, Nat.zero_add, bind_pure_unit]

theorem runAll_only (count : Nat) (plan : List (List String)) :
    (t.runAll exec count plan).Only [.note, .command] := by
  induction plan generalizing count with
  | nil => exact .ret ()
  | cons args plan ih =>
    refine Only.bind ?_ fun _ => ih (count + 1)
    intro e member
    obtain rfl | rfl : e = _ ∨ e = _ := by simpa [run] using member
    · exact List.mem_cons_self
    · exact .tail _ List.mem_cons_self

theorem runAll_commands_prefix (count : Nat) (plan : List (List String)) :
    Effect.commands (t.runAll exec count plan).run.effects <+: plan.map (t.compiler :: ·) := by
  induction plan generalizing count with
  | nil => exact List.nil_prefix
  | cons args plan ih =>
    rw [runAll, List.map_cons]
    cases result : (t.run exec count args).run.value with
    | error e =>
      rw [bind_error result]
      exact (List.prefix_cons_inj _).mpr List.nil_prefix
    | ok =>
      rw [bind_ok result, Effect.commands_append]
      exact (List.prefix_cons_inj _).mpr (ih (count + 1))

/-- A plan is run to its end if all its commands succeed, and fails otherwise. -/
theorem runAll_isOk_iff (count : Nat) (plan : List (List String)) :
    (t.runAll exec count plan).run.value.isOk = true ↔
      ∀ i args, plan[i]? = some args → exec (count + i) (t.compiler :: args) = .ok () := by
  induction plan generalizing count with
  | nil => exact ⟨fun _ _ _ none => absurd none (by simp), fun _ => rfl⟩
  | cons args plan ih =>
    have here : (t.run exec count args).run.value = exec count (t.compiler :: args) := rfl
    rw [runAll]
    cases result : exec count (t.compiler :: args) with
    | error e =>
      rw [bind_error (here.trans result)]
      refine ⟨fun done => absurd done (by simp [Except.isOk, Except.toBool]), fun all => ?_⟩
      have succeeds := all 0 args rfl
      rw [Nat.add_zero, result] at succeeds
      contradiction
    | ok =>
      rw [bind_ok (here.trans result), ih]
      constructor
      · intro rest i other planned
        cases i with
        | zero =>
          cases planned
          exact result
        | succ i =>
          have later := rest i other planned
          rwa [Nat.add_assoc, Nat.add_comm 1] at later
      · intro all i other planned
        rw [Nat.add_assoc, Nat.add_comm 1]
        exact all (i + 1) other planned

end Toolchain
end DocAnswers.Build
