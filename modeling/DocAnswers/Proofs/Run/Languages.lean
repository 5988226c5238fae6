import DocAnswers.Proofs.Language
import DocAnswers.Proofs.Run.Stages
import DocAnswers.Proofs.Sources.Union

/-! Where sources of unknown languages come from. Folders contribute none, so that only a file named
by itself or found by a pattern can be one. -/
namespace DocAnswers
open Attempt FileTree

/-- A failure for another reason than that the language of a source is not known. -/
def Failure.NotOfLanguage (e : Failure) : Prop := ∀ p, e ≠ .unknownLanguage p

namespace Sources
variable {w : Workplace} {arg : String} {args : List String}

theorem ofText_folder (folder : w.isFolder ⟨arg⟩ = true) :
    Argument.ofText w arg = .folder ⟨arg⟩ := by
  cases found : w.find? ⟨arg⟩ with
  | none => simp [Workplace.isFolder, found] at folder
  | some spot =>
    obtain ⟨tree, around⟩ := spot
    cases tree with
    | file content => simp [Workplace.isFolder, found, FileTree.isFolder] at folder
    | folder listable entries =>
      simp [Argument.ofText, Workplace.isFile, Workplace.isFolder, found, FileTree.isFile,
        FileTree.isFolder]

theorem known_of_mem_inFolder {p folder : Path} {files : List Path}
    (listed : inFolder w folder = .ok files) (member : p ∈ files) : hasKnownExtension p = true := by
  rw [inFolder] at listed
  split at listed
  · contradiction
  · obtain rfl := Except.ok.inj listed
    exact (Bool.and_eq_true _ _ ▸ (List.mem_filter.mp member).2).2

theorem known_of_mem_expandFrom {known files : List Path}
    (folders : ∀ arg ∈ args, w.isFolder ⟨arg⟩ = true)
    (before : ∀ p ∈ known, hasKnownExtension p = true)
    (done : (expandFrom w known args).run.value = .ok files) :
    ∀ p ∈ files, hasKnownExtension p = true := by
  induction args generalizing known with
  | nil =>
    cases done
    exact before
  | cons arg args ih =>
    obtain ⟨first, later⟩ := List.forall_mem_cons.mp folders
    have value := ofArgument_value w arg
    simp only [ofText_folder first] at value
    rw [expandFrom] at done
    cases listed : inFolder w ⟨arg⟩ with
    | error e =>
      rw [bind_error (value.trans listed)] at done
      contradiction
    | ok found =>
      rw [bind_ok (value.trans listed)] at done
      refine ih later (fun p member => ?_) done
      rcases mem_insertAll member with new | old
      · exact known_of_mem_inFolder listed new
      · exact before p old

theorem known_of_mem_expand {files : List Path} (folders : ∀ arg ∈ args, w.isFolder ⟨arg⟩ = true)
    (done : (expand w args).run.value = .ok files) : ∀ p ∈ files, hasKnownExtension p = true :=
  known_of_mem_expandFrom folders (List.forall_mem_nil _) done

theorem ofArgument_failsOnly (w : Workplace) (arg : String) :
    (ofArgument w arg : Attempt (List Path)).FailsOnly Failure.NotOfLanguage := by
  intro e failed p
  rw [ofArgument_value] at failed
  rintro rfl
  split at failed
  · contradiction
  · rw [inFolder] at failed
    split at failed <;> simp at failed
  · rw [matching] at failed
    split at failed <;> simp at failed

theorem expandFrom_failsOnly (w : Workplace) (known : List Path) (args : List String) :
    (expandFrom w known args).FailsOnly Failure.NotOfLanguage := by
  induction args generalizing known with
  | nil => exact .ret known
  | cons arg args ih => exact (ofArgument_failsOnly w arg).bind fun found => ih _

end Sources

namespace Build.Toolchain

/-- A plan fails only as one of its commands does. -/
theorem runAll_failsOnly (t : Toolchain) (exec : Executor) (count : Nat)
    (plan : List (List String)) :
    (t.runAll exec count plan).FailsOnly fun e => ∃ i words, exec i words = .error e := by
  induction plan generalizing count with
  | nil => exact .ret ()
  | cons args plan ih => exact FailsOnly.bind (fun e failed => ⟨count, _, failed⟩) fun _ => ih _

end Build.Toolchain

namespace Run
variable {o : Options} {s : Surroundings}

theorem Input.ofPath_eq_error_iff (p : Path) (e : Failure) :
    Input.ofPath p = .error e ↔ Sources.hasKnownExtension p = false ∧ e = .unknownLanguage p := by
  rw [Input.ofPath, ← Language.isSome_ofPath?]
  cases Language.ofPath? p <;> simp [eq_comm]

theorem Input.exists_of_known {p : Path} (known : Sources.hasKnownExtension p = true) :
    ∃ language, Input.ofPath p = .ok ⟨p, language⟩ := by
  rw [← Language.isSome_ofPath?] at known
  obtain ⟨language, is⟩ := Option.isSome_iff_exists.mp known
  exact ⟨language, by rw [Input.ofPath, is]⟩

theorem ofPath_mapM_of_known {files : List Path}
    (known : ∀ p ∈ files, Sources.hasKnownExtension p = true) :
    ∃ inputs, files.mapM Input.ofPath = .ok inputs := by
  induction files with
  | nil => exact ⟨[], rfl⟩
  | cons p files ih =>
    obtain ⟨first, later⟩ := List.forall_mem_cons.mp known
    obtain ⟨language, told⟩ := Input.exists_of_known first
    obtain ⟨inputs, rest⟩ := ih later
    exact ⟨⟨p, language⟩ :: inputs, by rw [List.mapM_cons, told, rest]; rfl⟩

theorem bytes_failsOnly (w : Workplace) (p : Path) :
    FailsOnly Failure.NotOfLanguage (ExceptT.mk (pure (bytes w p)) : Attempt (List UInt8)) := by
  apply FailsOnly.ofExcept
  rintro e failed q rfl
  rw [bytes] at failed
  split at failed <;> simp at failed

theorem report_failsOnly (o : Options) (s : Surroundings) (inputs : List Input) :
    (report o s inputs).FailsOnly Failure.NotOfLanguage := by
  refine FailsOnly.bind (.mapM (fun input => ?_) inputs) fun _ => .ret _
  refine FailsOnly.bind (.bind ?_ fun _ => .bind (.lift _) fun _ => .ret _) fun _ => .lift _
  refine FailsOnly.bind (bytes_failsOnly s.workplace input.path) fun content => ?_
  split
  · exact .bind (.lift _) fun _ => .ret _
  · exact .ret _

theorem finish_failsOnly (o : Options) (s : Surroundings) (files : List Path) :
    (finish o s files).FailsOnly fun e => ∃ i words, s.exec i words = .error e := by
  rw [finish]
  split
  · rw [build_eq_runAll]
    exact Build.Toolchain.runAll_failsOnly ⟨o.compiler⟩ s.exec 0 _
  · exact .ret ()

/-- When all sources are known, a run fails for another reason or as one of its commands does. -/
theorem run_failsOnly_of_known
    (known : ∀ files, expanded o s.workplace = .ok files →
      ∀ p ∈ files, Sources.hasKnownExtension p = true) :
    (run o s).FailsOnly fun e => e.NotOfLanguage ∨ ∃ i words, s.exec i words = .error e := by
  intro e failed
  cases found : expanded o s.workplace with
  | error e' =>
    have stopped : (run o s).run.value = .error e' := by
      rw [run, bind_error ((sources_value o s.workplace).trans found)]
    cases stopped.symm.trans failed
    exact .inl (Sources.expandFrom_failsOnly s.workplace [] _ e found)
  | ok files =>
    obtain ⟨inputs, told⟩ := ofPath_mapM_of_known (known files found)
    rw [run_of_ofPath_ok found told] at failed
    have published : (publish o s files inputs).FailsOnly fun e =>
        e.NotOfLanguage ∨ ∃ i words, s.exec i words = .error e := by
      refine FailsOnly.bind ((report_failsOnly o s inputs).mono fun _ other => .inl other) ?_
      refine fun _ => FailsOnly.bind (.lift _) fun _ => ?_
      exact (finish_failsOnly o s files).mono fun _ command => .inr command
    exact published e failed

theorem isFolder_here {w : Workplace} (inside : w.spot.tree.isFolder = true) :
    w.isFolder ⟨"."⟩ = true := by
  obtain ⟨⟨tree, around⟩, name⟩ := w
  cases tree with
  | file content => contradiction
  | folder listable entries => rfl

/-- The language of a source is known just if the search for sources in folders knows its extension,
which is when its name is something and `.c`; of any other path the failure tells that very path.
Folders therefore contribute only sources of known languages, and a run on folders never fails for
lack of a language, unless one of its commands reports such a failure. -/
theorem languages_are_known_in_folders :
    (∀ p : Path, (Language.ofPath? p).isSome = Sources.hasKnownExtension p ∧
      (Sources.hasKnownExtension p = true ↔ ∃ stem, stem ≠ [] ∧
        (Path.segments (Path.toNameEnd p.bytes)).getLast? = some (stem ++ (".c" : List UInt8))) ∧
      (∀ e, Input.ofPath p = .error e ↔
        Sources.hasKnownExtension p = false ∧ e = .unknownLanguage p) ∧
      (Failure.unknownLanguage p).message = "unknown implementation language for " ++ p.text) ∧
    (∀ (w : Workplace) (args : List String) files, (∀ arg ∈ args, w.isFolder ⟨arg⟩ = true) →
      (Sources.expand w args).run.value = .ok files →
      ∀ p ∈ files, ∃ language, Input.ofPath p = .ok ⟨p, language⟩) ∧
    ∀ (o : Options) (s : Surroundings), s.workplace.spot.tree.isFolder = true →
      (∀ arg ∈ o.paths, s.workplace.isFolder ⟨arg⟩ = true) →
      ∀ p, (run o s).run.value = .error (.unknownLanguage p) →
        ∃ i words, s.exec i words = .error (.unknownLanguage p) := by
  refine ⟨fun p => ⟨Language.isSome_ofPath? p, Language.hasKnownExtension_iff_segment p,
    Input.ofPath_eq_error_iff p, rfl⟩, ?_, ?_⟩
  · intro w args files folders done p member
    exact Input.exists_of_known (Sources.known_of_mem_expand folders done p member)
  · intro o s inside folders p failed
    have asked : ∀ arg ∈ if o.paths.isEmpty then ["."] else o.paths,
        s.workplace.isFolder ⟨arg⟩ = true := by
      split
      · exact List.forall_mem_singleton.mpr (isFolder_here inside)
      · exact folders
    have known : ∀ files, expanded o s.workplace = .ok files →
        ∀ p ∈ files, Sources.hasKnownExtension p = true :=
      fun _ found => Sources.known_of_mem_expand asked found
    rcases run_failsOnly_of_known known _ failed with other | command
    · exact absurd rfl (other p)
    · exact command

/-- A folder with a source, with a file that has no name before its extension, and with a header. -/
theorem languages_are_known_in_folders_mixed :
    let folder := FileTree.folder true
      [("x.y.c", .file (some [])), (".c", .file (some [])), ("x.h", .file (some []))]
    let s : Surroundings :=
      { workplace := ⟨⟨.folder true [("lib", folder)], []⟩, none⟩
        fetch := .unserved, exec := fun _ _ => .ok () }
    (Sources.expand s.workplace ["lib/."]).run.value = .ok [⟨"lib/./x.y.c"⟩] ∧
      (∃ language, Input.ofPath ⟨"lib/./x.y.c"⟩ = .ok ⟨⟨"lib/./x.y.c"⟩, language⟩) ∧
      ∀ p, (run { paths := ["lib/."] } s).run.value ≠ .error (.unknownLanguage p) := by
  intro folder s
  obtain ⟨-, known, runs⟩ := languages_are_known_in_folders
  have folders : ∀ arg ∈ ["lib/."], s.workplace.isFolder ⟨arg⟩ = true :=
    List.forall_mem_singleton.mpr rfl
  have found : (Sources.expand s.workplace ["lib/."]).run.value = .ok [⟨"lib/./x.y.c"⟩] := by rfl
  refine ⟨found, known _ _ _ folders found _ List.mem_cons_self, fun p failed => ?_⟩
  obtain ⟨i, words, refused⟩ := runs { paths := ["lib/."] } s rfl folders p failed
  contradiction

end Run
end DocAnswers
