import DocAnswers.Build.Toolchain
import Mathlib.Data.List.Perm.Basic

/-! The order in which a linker gets objects. It is that of their texts, whatever order they arrive
in, and the program stands behind all of them. So a command tells which objects it links and how often
each of them, and no more than that. -/
namespace DocAnswers.Build

/-- Texts that do not descend, as many of each as there are objects with it. -/
structure LinkOrder (objects : List Path) (texts : List String) : Prop where
  perm : texts.Perm (objects.map (·.text))
  ascending : texts.Pairwise (· ≤ ·)

namespace LinkOrder
variable {objects arrived : List Path} {texts others : List String}

theorem unique (order : LinkOrder objects texts) (other : LinkOrder objects others) :
    others = texts :=
  List.Perm.eq_of_pairwise (fun _ _ _ _ => String.le_antisymm) other.ascending order.ascending
    (other.perm.trans order.perm.symm)

/-- Two lists of objects come in one order if, and only if, they have the same texts. -/
theorem iff_perm (order : LinkOrder objects texts) :
    LinkOrder arrived texts ↔ (arrived.map (·.text)).Perm (objects.map (·.text)) := by
  constructor
  · intro other
    exact other.perm.symm.trans order.perm
  · intro same
    exact ⟨order.perm.trans same.symm, order.ascending⟩

end LinkOrder

namespace Toolchain
variable {objects arrived : List Path} {program other : Path}

theorem linkManyArguments_spec (objects : List Path) (program : Path) :
    ∃ texts, LinkOrder objects texts ∧
      linkManyArguments objects program = texts ++ ["-o", program.text] := by
  let texts := (objects.map (·.text)).mergeSort fun a b => !(b < a)
  have notAfter (a b : String) : (!decide (b < a)) = true ↔ a ≤ b := by
    rw [Bool.not_eq_true', decide_eq_false_iff_not, String.not_lt]
  have sorted : texts.Pairwise fun a b => (!decide (b < a)) = true := by
    apply List.pairwise_mergeSort
    · simp only [notAfter]
      exact fun _ _ _ => String.le_trans
    · simp only [Bool.or_eq_true, notAfter]
      exact String.le_total
  have ascending : texts.Pairwise (· ≤ ·) := sorted.imp (notAfter _ _).mp
  exact ⟨texts, ⟨List.mergeSort_perm _ _, ascending⟩, rfl⟩

/-- The words behind the compiler tell the texts of the objects up to their order, and they tell the text
of the program. -/
theorem linkManyArguments_eq_iff :
    linkManyArguments arrived other = linkManyArguments objects program ↔
      (arrived.map (·.text)).Perm (objects.map (·.text)) ∧ other.text = program.text := by
  obtain ⟨texts, order, words⟩ := linkManyArguments_spec objects program
  obtain ⟨texts', order', words'⟩ := linkManyArguments_spec arrived other
  rw [words, words']
  constructor
  · intro same
    obtain ⟨rfl, last⟩ := List.append_inj' same rfl
    have target : other.text = program.text := by simpa using last
    exact ⟨order.iff_perm.mp order', target⟩
  · rintro ⟨same, target⟩
    rw [order.unique (order'.iff_perm.mpr same.symm), target]

theorem linkMany_eq_iff (t : Toolchain) (exec : Executor) (count : Nat) :
    t.linkMany exec count arrived other = t.linkMany exec count objects program ↔
      linkManyArguments arrived other = linkManyArguments objects program := by
  constructor
  · intro same
    have commands : [t.compiler :: linkManyArguments arrived other] =
        [t.compiler :: linkManyArguments objects program] :=
      congrArg (fun linked : Attempt Unit => Effect.commands linked.run.effects) same
    simpa using commands
  · intro same
    rw [linkMany, linkMany, same]

/-- Linking starts one command, which gives the linker the texts of the objects in order and behind
them the program to write, and what comes of it is what comes of that command. All of this is the same
for every permutation of the objects, and for two lists of objects and two programs just if they are
shown by the same texts. -/
theorem linkMany_ignores_order (t : Toolchain) (objects : List Path) (program : Path) :
    ∃ texts : List String, LinkOrder objects texts ∧
      ∀ (exec : Executor) (count : Nat),
        let words := t.compiler :: (texts ++ ["-o", program.text])
        let linked := t.linkMany exec count objects program
        linked.run.effects = [.note (announcement words), .command words] ∧
        linked.run.value = exec count words ∧
        (∀ arrived : List Path, arrived.Perm objects →
          t.linkMany exec count arrived program = linked) ∧
        ∀ (arrived : List Path) (other : Path),
          t.linkMany exec count arrived other = linked ↔
            (arrived.map (·.text)).Perm (objects.map (·.text)) ∧ other.text = program.text := by
  obtain ⟨texts, order, arguments⟩ := linkManyArguments_spec objects program
  refine ⟨texts, order, fun exec count => ?_⟩
  intro words linked
  have started : linked = t.run exec count (texts ++ ["-o", program.text]) := by
    rw [← arguments]
    rfl
  have alike (arrived : List Path) (other : Path) : t.linkMany exec count arrived other = linked ↔
      (arrived.map (·.text)).Perm (objects.map (·.text)) ∧ other.text = program.text :=
    (t.linkMany_eq_iff exec count).trans linkManyArguments_eq_iff
  refine ⟨congrArg (·.run.effects) started, congrArg (·.run.value) started, ?_, alike⟩
  intro arrived same
  exact (alike arrived program).mpr ⟨same.map _, rfl⟩

/-- Paths are ordered otherwise: the object in the folder comes before the one beside it. -/
example : (Path.mk "a/b.o").compare ⟨"a.o"⟩ = .lt ∧
    linkManyArguments [⟨"a/b.o"⟩, ⟨"zz"⟩, ⟨"a.o"⟩, ⟨"+.o"⟩, ⟨"a.o"⟩] ⟨"zz"⟩ =
      ["+.o", "a.o", "a.o", "a/b.o", "zz", "-o", "zz"] := by
  refine ⟨by decide, ?_⟩
  cbv

end Toolchain
end DocAnswers.Build
