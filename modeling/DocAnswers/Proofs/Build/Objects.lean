import DocAnswers.Proofs.Build.Targets
import Mathlib.Data.List.Nodup

/-! The objects of a build that makes one program of all sources. An object has the text of its source
with another extension, so that sources may share an object that are different but have one text. The
sources that do are the only ones: where none share an object, no command writes over what another one
has written, and the linker gets the object of each source once. -/
namespace DocAnswers

namespace Path

/-- Whether the last segment of a path is `..c`, of which only dots are left without the extension. -/
def IsBare (p : Path) : Prop := (segments p.bytes).getLast? = some [dot, dot, 0x63]

instance (p : Path) : Decidable p.IsBare := inferInstanceAs (Decidable (_ = _))

/-- Two sources have texts that name one path, and neither or both are made an object of by naming the
folder above. -/
def SharesObject (p q : Path) : Prop :=
  p.shown.components = q.shown.components ∧ (p.IsBare ↔ q.IsBare)

instance (p q : Path) : Decidable (p.SharesObject q) := inferInstanceAs (Decidable (_ ∧ _))

end Path

namespace Build
open DocAnswers.Path Toolchain Text.Utf8

namespace Parts
variable {p q : Path} {front stem junk front' stem' junk' : List UInt8}

theorem isBare_iff (parts : Parts p front stem junk) : p.IsBare ↔ stem = [dot] ∧ junk = [] := by
  have single : slash ∉ stem ++ [dot, 0x63] := (parts.isName (by decide)).no_slash
  rw [IsBare, parts.spelled]
  cases parts.trailing with
  | nothing =>
    have bare : [dot, dot, 0x63] = [dot] ++ [dot, 0x63] := rfl
    rw [List.reverse_nil, List.append_nil, getLast?_segments parts.isFront single,
      Option.some.injEq, and_iff_left rfl, bare]
    exact List.append_left_inj _
  | @slash rest _ =>
    have ends : front ++ (stem ++ [dot, 0x63]) ++ (slash :: rest).reverse =
        (front ++ (stem ++ [dot, 0x63]) ++ rest.reverse) ++ slash :: [] := by simp
    rw [ends, getLast?_segments_append_slash _ (by simp)]
    simp
  | @here rest _ =>
    have ends : front ++ (stem ++ [dot, 0x63]) ++ (dot :: slash :: rest).reverse =
        (front ++ (stem ++ [dot, 0x63]) ++ rest.reverse) ++ slash :: [dot] := by simp
    rw [ends, getLast?_segments_append_slash _ (by decide)]
    simp

/-- Sources have one object just if they share it. -/
theorem shown_objectPath_eq_iff (parts : Parts p front stem junk)
    (other : Parts q front' stem' junk') :
    (objectPath p).shown.components = (objectPath q).shown.components ↔ p.SharesObject q := by
  rw [parts.shown_objectPath, other.shown_objectPath, parts.shown.objectPath_components,
    other.shown.objectPath_components, SharesObject, parts.shown.components,
    other.shown.components, parts.isBare_iff, other.isBare_iff]
  simp only [mended_eq_dot_iff]
  by_cases bare : stem = [dot] ∧ junk = [] <;> by_cases bare' : stem' = [dot] ∧ junk' = []
  all_goals simp [bare, bare']

end Parts

variable {files : List Path} (known : ∀ p ∈ files, p.extension? = some ("c" : List UInt8))
include known

theorem distinct_objects_iff : Distinct (files.map fun p => (objectPath p).shown) ↔
    files.Pairwise fun p q => ¬p.SharesObject q := by
  rw [Distinct, List.pairwise_map]
  apply List.Pairwise.iff_of_mem
  intro p q member other
  obtain ⟨_, _, _, parts⟩ := exists_parts (known p member)
  obtain ⟨_, _, _, parts'⟩ := exists_parts (known q other)
  exact not_congr (parts.shown_objectPath_eq_iff parts')

omit known in
/-- Different sources that are text do not share an object. -/
theorem not_sharesObject_of_isText (distinct : Distinct files) (texts : ∀ p ∈ files, p.IsText) :
    files.Pairwise fun p q => ¬p.SharesObject q := by
  apply distinct.imp_of_mem
  intro p q member other differ shares
  have same := shares.1
  rw [(shown_eq_iff p).mpr (texts p member), (shown_eq_iff q).mpr (texts q other)] at same
  exact differ same

theorem objectPath_not_source {t : Path} (made : t ∈ files.map fun p => (objectPath p).shown) :
    ∀ p ∈ files, t.components ≠ p.components := by
  obtain ⟨q, member, rfl⟩ := List.mem_map.mp made
  obtain ⟨_, _, _, parts⟩ := exists_parts (known q member)
  intro p other
  obtain ⟨_, _, _, parts'⟩ := exists_parts (known p other)
  rw [parts.shown_objectPath]
  exact parts.shown.objectPath_ne parts'

theorem option_not_object : "-o" ∉ (files.map objectPath).map (·.text) := by
  intro member
  obtain ⟨t, made, is⟩ := List.mem_map.mp member
  obtain ⟨p, listed, rfl⟩ := List.mem_map.mp made
  obtain ⟨_, _, _, parts⟩ := exists_parts (known p listed)
  exact parts.objectPath_ne_option is

theorem targets_of_compiles (compiler : String) :
    (files.map fun p => compiler :: compileArguments p).map (fun words => target? words.tail) =
      (files.map fun p => (objectPath p).shown).map some := by
  rw [List.map_map, List.map_map]
  apply List.map_congr_left
  intro p member
  exact target?_compileArguments (known p member)

omit known in
theorem target?_after {objects : List String} (unmarked : "-o" ∉ objects) (program : Path) :
    target? (objects ++ ["-o", program.text]) = some program.shown := by
  induction objects with
  | nil => rfl
  | cons object objects ih =>
    obtain ⟨other, rest⟩ := not_or.mp (mt List.mem_cons.mpr unmarked)
    rw [List.cons_append, target?, ih rest]
    exact fun _ _ is _ => other is.symm

end Build

namespace Run
open Build DocAnswers.Path

theorem plan_of_joint {o : Options} (joint : o.separate = false) (w : FileTree.Workplace)
    (files : List Path) : (plan o w files).map (o.compiler :: ·) =
      (files.map fun p => o.compiler :: Toolchain.compileArguments p) ++
        [o.compiler :: Toolchain.linkManyArguments (files.map objectPath) (programName o w)] := by
  simp [plan, joint, jointPlan]

/-- Where all commands succeed, a joint build gives every command of its plan. -/
theorem joint_build_commands {o : Options} (joint : o.separate = false) (s : Surroundings)
    (files : List Path) (succeeds : ∀ n words, s.exec n words = .ok ()) :
    Effect.commands (build o s files).run.effects =
      (files.map fun p => o.compiler :: Toolchain.compileArguments p) ++
        [o.compiler :: Toolchain.linkManyArguments (files.map objectPath)
          (programName o s.workplace)] :=
  ((build_course o s files).ran_eq_of_succeeds succeeds).trans (plan_of_joint joint s.workplace files)

/-- All sources of a joint build are compiled, as far as the commands succeed, each to the object that
has its text with another extension, which is no source. Then one command links them, which gets the
text of each object and writes to the program. The objects are different from each other if and only if
no two sources share one, and then the linker gets the object of each source once. Sources that are text
share none, but others may. The sources of a run are such as this needs them. -/
theorem joint_build_separates_objects_iff {o : Options} (joint : o.separate = false)
    (s : Surroundings) :
    (∀ files : List Path, Distinct files → (∀ p ∈ files, Language.ofPath? p ≠ none) →
      let compiles := files.map fun p => o.compiler :: Toolchain.compileArguments p
      let targets := files.map fun p => (objectPath p).shown
      let program := programName o s.workplace
      ∃ objects : List String,
        let commands := compiles ++ [o.compiler :: (objects ++ ["-o", program.text])]
        (∀ exec, Effect.commands (build o { s with exec } files).run.effects <+: commands) ∧
        (∀ exec, (∀ n words, exec n words = .ok ()) →
          Effect.commands (build o { s with exec } files).run.effects = commands) ∧
        compiles.map (fun words => target? words.tail) = targets.map some ∧
        (∀ t ∈ targets, ∀ p ∈ files, t.components ≠ p.components) ∧
        objects.Perm (targets.map (·.text)) ∧
        target? (objects ++ ["-o", program.text]) = some program.shown ∧
        (Distinct targets ↔ files.Pairwise fun p q => ¬p.SharesObject q) ∧
        (Distinct targets → ∀ p ∈ files, objects.count (objectPath p).text = 1) ∧
        ((∀ p ∈ files, p.IsText) → Distinct targets)) ∧
    ∀ sources, Prepared o s.workplace sources → Distinct (sources.map (·.path)) ∧
      ∀ p ∈ sources.map (·.path), Language.ofPath? p ≠ none := by
  refine ⟨?_, ?_⟩
  · intro files distinct known compiles targets program
    have extended : ∀ p ∈ files, p.extension? = some ("c" : List UInt8) := fun p member =>
      Language.extension?_of_ofPath? (known p member)
    have shared := distinct_objects_iff extended
    let objects := ((files.map objectPath).map (·.text)).mergeSort fun a b => !(b < a)
    have texts : targets.map (·.text) = (files.map objectPath).map (·.text) := by
      simp [targets, text_shown]
    have same : objects.Perm (targets.map (·.text)) := texts ▸ List.mergeSort_perm _ _
    have planned := plan_of_joint joint s.workplace files
    refine ⟨objects, ?_, ?_, targets_of_compiles extended o.compiler,
      fun t made => objectPath_not_source extended made, same, ?_, shared, ?_,
      fun texts => shared.mpr (not_sharesObject_of_isText distinct texts)⟩
    · intro exec
      have started := Toolchain.runAll_commands_prefix ⟨o.compiler⟩ exec 0 (plan o s.workplace files)
      rwa [planned, ← build_eq_runAll o { s with exec }] at started
    · intro exec succeeds
      exact joint_build_commands joint { s with exec } files succeeds
    · rw [texts] at same
      exact target?_after (mt same.mem_iff.mp (option_not_object extended)) program
    · intro apart p member
      have areTexts : ∀ t ∈ targets, t.IsText := by
        intro t made
        obtain ⟨q, -, rfl⟩ := List.mem_map.mp made
        exact isText_ofText _
      have once : objects.Nodup := same.nodup_iff.mpr (apart.texts_nodup areTexts)
      have there : (objectPath p).text ∈ objects := by
        rw [same.mem_iff, texts]
        exact List.mem_map_of_mem (List.mem_map_of_mem member)
      exact List.count_eq_one_of_mem once there
  · intro sources prepared
    refine ⟨(Sources.expand_ascending prepared.expanded).distinct, ?_⟩
    intro p member
    obtain ⟨source, listed, rfl⟩ := List.mem_map.mp member
    rw [prepared.known source listed]
    exact Option.some_ne_none _

/-- Sources that differ in dots and in case only, one of them with a slash behind it, and one whose
object is the folder above. -/
theorem joint_build_separates_objects_dots :
    let files : List Path := [⟨"..c"⟩, ⟨"A.c"⟩, ⟨"a..c"⟩, ⟨"a.c.c"⟩, ⟨"a.c/"⟩, ⟨"x/a.c"⟩]
    let s : Surroundings := ⟨⟨⟨.folder true [], []⟩, none⟩, .unserved, fun _ _ => .ok ()⟩
    Distinct files ∧ (∀ p ∈ files, Language.ofPath? p ≠ none) ∧
      (files.map objectPath).map (·.text) = ["..", "A.o", "a..o", "a.c.o", "a.o", "x/a.o"] ∧
      Distinct (files.map fun p => (objectPath p).shown) ∧
      ∃ objects : List String, (∀ p ∈ files, objects.count (objectPath p).text = 1) ∧
        Effect.commands (build {} s files).run.effects =
          (files.map fun p => "cc" :: Toolchain.compileArguments p) ++
            ["cc" :: (objects ++ ["-o", "a.out"])] := by
  intro files s
  have distinct : Distinct files := by decide
  have known : ∀ p ∈ files, Language.ofPath? p ≠ none := by decide
  obtain ⟨objects, -, whole, -, -, -, -, -, once, apart⟩ :=
    (joint_build_separates_objects_iff (o := {}) rfl s).1 files distinct known
  have apart := apart (by decide)
  exact ⟨distinct, known, by decide, apart, objects, once apart, whole s.exec fun _ _ => rfl⟩

/-- Two names of a folder that are no text are shown alike, and so they share an object. -/
theorem joint_build_overwrites_object :
    let content : FileTree := .file (some [])
    let w : FileTree.Workplace :=
      ⟨⟨.folder true [([0xE8, 0x2E, 0x63], content), ([0xE9, 0x2E, 0x63], content)], []⟩, none⟩
    let s : Surroundings := ⟨w, .unserved, fun _ _ => .ok ()⟩
    let files : List Path := [⟨[0x2E, 0x2F, 0xE8, 0x2E, 0x63]⟩, ⟨[0x2E, 0x2F, 0xE9, 0x2E, 0x63]⟩]
    (Sources.expand w ["."]).run.value = .ok files ∧ Distinct files ∧
      (∀ p ∈ files, Language.ofPath? p ≠ none) ∧
      Effect.commands (build {} s files).run.effects =
        [["cc", "-c", "./\uFFFD.c", "-o", "./\uFFFD.o"], ["cc", "-c", "./\uFFFD.c", "-o", "./\uFFFD.o"],
          ["cc", "./\uFFFD.o", "./\uFFFD.o", "-o", "a.out"]] ∧
      ¬Distinct (files.map fun p => (objectPath p).shown) := by
  intro content w s files
  have found : (Sources.expand w ["."]).run.value = .ok files := by rfl
  have texts : (files.map objectPath).map (·.text) = ["./\uFFFD.o", "./\uFFFD.o"] := by decide
  have linked : Toolchain.linkManyArguments (files.map objectPath) (programName {} w) =
      ["./\uFFFD.o", "./\uFFFD.o", "-o", "a.out"] := by
    rw [Toolchain.linkManyArguments, texts, List.mergeSort_of_pairwise (by decide)]
    rfl
  have compiled : (files.map fun p => "cc" :: Toolchain.compileArguments p) =
      [["cc", "-c", "./\uFFFD.c", "-o", "./\uFFFD.o"],
        ["cc", "-c", "./\uFFFD.c", "-o", "./\uFFFD.o"]] := by decide
  refine ⟨found, by decide, by decide, ?_, by decide⟩
  rw [joint_build_commands rfl s files fun _ _ => rfl, linked, compiled]
  rfl

end Run
end DocAnswers
