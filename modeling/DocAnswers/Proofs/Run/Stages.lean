import DocAnswers.Proofs.Build.Plan
import DocAnswers.Proofs.Run.Prepared
import DocAnswers.Proofs.Sources.Expansion

/-! The stages of a run one by one: what kinds of effects each of them has, and when it comes to an
end with what. -/
namespace DocAnswers
open Attempt FileTree

theorem Lookup.search_kinds (l : Lookup) (query : String) :
    ∀ e ∈ (l.search query).effects, e.kind ∈ [.note, .request] := by
  rw [Lookup.search, Traced.bind_effects]
  generalize (l.findLinks query).value = links
  cases links <;>
    simp [findLinks, extract, candidate?, Page.load, Traced.act, Traced.note, Effect.kind]

namespace Run
variable {o : Options} {w : Workplace} {s : Surroundings}

theorem sources_only (o : Options) (w : Workplace) : (sources o w).Only [.note] := by
  refine (Sources.expandFrom_only w [] _).bind fun files => ?_
  split
  · exact (Only.note noSources List.mem_cons_self).bind fun _ => .ret files
  · exact .ret files

theorem sources_value (o : Options) (w : Workplace) : (sources o w).run.value = expanded o w := by
  rw [sources]
  cases found : expanded o w with
  | error e => rw [bind_error found]
  | ok files =>
    rw [bind_ok found]
    cases files <;> rfl

section Language

theorem ofPath_mapM_error {files : List Path} (member : p ∈ files)
    (unknown : Language.ofPath? p = none) : ∃ e, files.mapM Input.ofPath = .error e := by
  induction files with
  | nil => exact absurd member List.not_mem_nil
  | cons q files ih =>
    rw [List.mapM_cons]
    cases first : Input.ofPath q with
    | error e => exact ⟨e, rfl⟩
    | ok input =>
      have later : p ∈ files := by
        rcases List.mem_cons.mp member with rfl | later
        · simp [Input.ofPath, unknown] at first
        · exact later
      obtain ⟨e, rest⟩ := ih later
      exact ⟨e, by rw [rest]; rfl⟩

theorem paths_of_mapM_ofPath {files : List Path} {inputs : List Input}
    (told : files.mapM Input.ofPath = .ok inputs) : inputs.map (·.path) = files := by
  induction files generalizing inputs with
  | nil =>
    cases told
    rfl
  | cons p files ih =>
    rw [List.mapM_cons, Input.ofPath] at told
    cases is : Language.ofPath? p with
    | none =>
      rw [is] at told
      contradiction
    | some language =>
      cases rest : files.mapM Input.ofPath with
      | error e =>
        rw [is, rest] at told
        contradiction
      | ok others =>
        rw [is, rest] at told
        cases told
        exact congrArg (p :: ·) (ih rest)

theorem ofPath_mapM_ok {sources : List Source}
    (known : ∀ source ∈ sources, Language.ofPath? source.path = some source.language) :
    (sources.map (·.path)).mapM Input.ofPath = .ok (sources.map (·.toInput)) := by
  induction sources with
  | nil => rfl
  | cons source sources ih =>
    obtain ⟨here, later⟩ := List.forall_mem_cons.mp known
    simp only [List.map_cons, List.mapM_cons, Input.ofPath, here, ih later]
    rfl

end Language

section Reading

theorem readText_only (w : Workplace) (p : Path) : (readText w p).Only [.note] := by
  refine (Only.ofExcept (bytes w p)).bind fun content => ?_
  split
  · exact (Only.note (lossy p) List.mem_cons_self).bind fun _ => .ret _
  · exact .ret _

theorem readText_error (failed : bytes w p = .error e) : (readText w p).run.value = .error e := by
  rw [readText, failed, ofExcept_error_bind]
  rfl

theorem readText_value (source : Source) (readable : bytes w source.path = .ok source.content) :
    (readText w source.path).run.value = .ok source.text := by
  rw [readText, readable, ofExcept_ok_bind]
  split <;> rfl

theorem procedures_only (o : Options) (w : Workplace) (p : Path) :
    (procedures o w p).Only [.note] :=
  (readText_only w p).bind fun _ =>
    (Only.note (parsed p _) List.mem_cons_self).bind fun _ => .ret _

theorem procedures_error (failed : bytes w p = .error e) :
    (procedures o w p).run.value = .error e := by
  rw [procedures, bind_error (readText_error failed)]

theorem procedures_value (source : Source) (readable : bytes w source.path = .ok source.content) :
    (procedures o w source.path).run.value = .ok (source.procedures o.convention) := by
  rw [procedures, bind_ok (readText_value source readable)]
  rfl

end Reading

section Entries

/-- The lookup for a documentation and the name of a language. -/
def searchFor (o : Options) (fetch : Fetcher) (doc language : String) : Traced String :=
  Lookup.search ⟨o.engine, fetch⟩ (Search.query doc (some language))

/-- The answer that a procedure is reported with. -/
def answerOf (o : Options) (fetch : Fetcher) (language : Language) (p : Comment.Procedure) :
    Option String :=
  if o.lookup then some (searchFor o fetch p.doc language.name).value else none

/-- The entries of a source in a report. -/
def Source.entries (o : Options) (fetch : Fetcher) (source : Source) : List Entry :=
  (source.procedures o.convention).map fun p =>
    { file := source.path.text
      language := source.language.name
      procedure := p.signature
      comment := p.doc
      answer := answerOf o fetch source.language p }

/-- What a run reports of its sources. -/
def reportOf (o : Options) (fetch : Fetcher) (sources : List Source) : Report :=
  ⟨sources.flatMap (·.entries o fetch)⟩

theorem entry_only (o : Options) (fetch : Fetcher) (input : Input) (p : Comment.Procedure) :
    ∀ e ∈ (entry o fetch input p).effects, e.kind ∈ [.note, .request] := by
  intro e member
  rw [entry, Traced.bind_effects, Traced.pure_effects, List.append_nil, answer] at member
  split at member
  · rcases List.mem_append.mp member with searched | noted
    · exact Lookup.search_kinds _ _ e searched
    · rw [List.mem_singleton.mp noted]
      exact List.mem_cons_self
  · exact absurd member List.not_mem_nil

theorem entry_value (o : Options) (fetch : Fetcher) (input : Input) (p : Comment.Procedure) :
    (entry o fetch input p).value =
      { file := input.path.text
        language := input.language.name
        procedure := p.signature
        comment := p.doc
        answer := answerOf o fetch input.language p } := by
  rw [entry, Traced.bind_value, Traced.pure_value, answer, answerOf]
  split <;> rfl

theorem requests_entry (o : Options) (fetch : Fetcher) (input : Input) (p : Comment.Procedure) :
    Effect.requests (entry o fetch input p).effects =
      if o.lookup then Effect.requests (searchFor o fetch p.doc input.language.name).effects
      else [] := by
  rw [entry, Traced.bind_effects, Traced.pure_effects, List.append_nil, answer]
  split
  · exact (Effect.requests_append _ _).trans (List.append_nil _)
  · rfl

theorem entriesOf_only (o : Options) (s : Surroundings) (input : Input) :
    (entriesOf o s input).Only [.note, .request] := by
  refine Only.bind ((procedures_only o s.workplace input.path).mono (by simp)) fun found => ?_
  refine .lift fun e member => ?_
  rw [Traced.mapM_effects] at member
  obtain ⟨p, -, there⟩ := List.mem_flatMap.mp member
  exact entry_only o s.fetch input p e there

theorem entriesOf_error (failed : bytes s.workplace input.path = .error e) :
    (entriesOf o s input).run.value = .error e := by
  rw [entriesOf, bind_error (procedures_error failed)]

theorem entriesOf_value (source : Source)
    (readable : bytes s.workplace source.path = .ok source.content) :
    (entriesOf o s source.toInput).run.value = .ok (source.entries o s.fetch) := by
  rw [entriesOf, bind_ok (procedures_value source readable), ExceptT.run_lift, Traced.map_value,
    Traced.mapM_value]
  simp only [entry_value, Source.entries]

theorem report_only (o : Options) (s : Surroundings) (inputs : List Input) :
    (report o s inputs).Only [.note, .request] :=
  (Only.mapM (entriesOf_only o s) inputs).bind fun _ => .ret _

theorem report_error {inputs : List Input} (member : input ∈ inputs)
    (failed : bytes s.workplace input.path = .error e) :
    ∃ e', (report o s inputs).run.value = .error e' := by
  obtain ⟨e', first⟩ := mapM_error member (entriesOf_error (o := o) failed)
  exact ⟨e', by rw [report, bind_error first]⟩

theorem report_run {sources : List Source}
    (readable : ∀ source ∈ sources, bytes s.workplace source.path = .ok source.content) :
    (report o s (sources.map (·.toInput))).run =
      ⟨sources.flatMap fun source => (entriesOf o s source.toInput).run.effects,
        .ok (reportOf o s.fetch sources)⟩ := by
  have all := mapM_ok (f := entriesOf o s ∘ Source.toInput) sources fun source member =>
    entriesOf_value source (readable source member)
  rw [report, List.mapM_map, bind_ok (congrArg Traced.value all), all]
  simp [reportOf, List.flatMap_def]

theorem requests_entriesOf (source : Source)
    (readable : bytes s.workplace source.path = .ok source.content) :
    Effect.requests (entriesOf o s source.toInput).run.effects =
      if o.lookup then (source.procedures o.convention).flatMap fun p =>
        Effect.requests (searchFor o s.fetch p.doc source.language.name).effects
      else [] := by
  rw [entriesOf, bind_ok (procedures_value source readable), Effect.requests_append]
  have reading := (procedures_only o s.workplace source.path).requests_eq_nil (by decide)
  rw [reading, List.nil_append, ExceptT.run_lift, Traced.map_effects, Traced.mapM_effects,
    Effect.requests_flatMap]
  simp only [requests_entry]
  split <;> simp

end Entries

section Build

/-- The arguments of the compiler for each command of a build. -/
def plan (o : Options) (w : Workplace) (files : List Path) : List (List String) :=
  if o.separate then Build.separatePlan files else Build.jointPlan files (programName o w)

theorem build_eq_runAll (o : Options) (s : Surroundings) (files : List Path) :
    build o s files =
      Build.Toolchain.runAll ⟨o.compiler⟩ s.exec 0 (plan o s.workplace files) := by
  rw [build, plan]
  split
  · exact Build.Toolchain.makeAll_eq_runAll _ _ 0 files
  · exact Build.Toolchain.makeJoint_eq_runAll _ _ files _

/-- What a run does when the report is printed. -/
def finish (o : Options) (s : Surroundings) (files : List Path) : Attempt Unit :=
  if o.build && !files.isEmpty then build o s files else return ()

theorem finish_only (o : Options) (s : Surroundings) (files : List Path) :
    (finish o s files).Only [.note, .command] := by
  rw [finish]
  split
  · rw [build_eq_runAll]
    exact Build.Toolchain.runAll_only _ _ 0 _
  · exact .ret ()

theorem finish_commands_prefix (o : Options) (s : Surroundings) (files : List Path) :
    Effect.commands (finish o s files).run.effects <+:
      (plan o s.workplace files).map (o.compiler :: ·) := by
  rw [finish]
  split
  · rw [build_eq_runAll]
    exact Build.Toolchain.runAll_commands_prefix ⟨o.compiler⟩ s.exec 0 _
  · exact List.nil_prefix

theorem finish_isOk_iff (o : Options) (s : Surroundings) (files : List Path) :
    (finish o s files).run.value.isOk = true ↔ o.build = false ∨ files = [] ∨
      ∀ i args, (plan o s.workplace files)[i]? = some args →
        s.exec i (o.compiler :: args) = .ok () := by
  have whole := Build.Toolchain.runAll_isOk_iff ⟨o.compiler⟩ s.exec 0 (plan o s.workplace files)
  simp only [Nat.zero_add] at whole
  rw [finish, build_eq_runAll, ← whole]
  cases o.build with
  | false => exact ⟨fun _ => .inl rfl, fun _ => rfl⟩
  | true =>
    cases files with
    | nil => exact ⟨fun _ => .inr (.inl rfl), fun _ => rfl⟩
    | cons file files => simp

end Build

section Whole

/-- What comes of a run, apart from its effects. -/
theorem run_value (o : Options) (s : Surroundings) :
    (run o s).run.value =
      expanded o s.workplace >>= fun files => files.mapM Input.ofPath >>= fun inputs =>
        (report o s inputs).run.value >>= fun _ => (finish o s files).run.value := by
  rw [run, bind_value, sources_value]
  refine congrArg _ (funext fun files => ?_)
  rw [bind_value]
  refine congrArg _ (funext fun inputs => ?_)
  rw [bind_value]
  exact congrArg _ (funext fun found => bind_value _ _)

/-- What a run does when the languages are told: the report, and what comes after it. -/
def publish (o : Options) (s : Surroundings) (files : List Path) (inputs : List Input) :
    Attempt Unit := do
  let found ← report o s inputs
  ExceptT.lift (Traced.act (.print (render o.format found)))
  finish o s files

theorem run_of_ofPath_error {files : List Path} (found : expanded o s.workplace = .ok files)
    (failed : files.mapM Input.ofPath = .error e) :
    (run o s).run = ⟨(sources o s.workplace).run.effects, .error e⟩ := by
  rw [run, bind_ok ((sources_value o s.workplace).trans found), failed, ofExcept_error_bind]
  exact congrArg (Traced.mk · _) (List.append_nil _)

theorem run_of_ofPath_ok {files : List Path} {inputs : List Input}
    (found : expanded o s.workplace = .ok files) (told : files.mapM Input.ofPath = .ok inputs) :
    (run o s).run =
      ⟨(sources o s.workplace).run.effects ++ (publish o s files inputs).run.effects,
        (publish o s files inputs).run.value⟩ := by
  rw [run, bind_ok ((sources_value o s.workplace).trans found), told, ofExcept_ok_bind]
  rfl

theorem run_unrecognised (unrecognised : Unrecognised o s.workplace) :
    ∃ e, (run o s).run = ⟨(sources o s.workplace).run.effects, .error e⟩ := by
  rcases unrecognised with ⟨e, failed⟩ | ⟨files, found, p, member, unknown⟩
  · exact ⟨e, bind_error ((sources_value o s.workplace).trans failed) _⟩
  · obtain ⟨e, failed⟩ := ofPath_mapM_error member unknown
    exact ⟨e, run_of_ofPath_error found failed⟩

theorem run_unreadable (unreadable : Unreadable o s.workplace) :
    ∃ e, (run o s).run.value = .error e ∧ (run o s).Only [.note, .request] := by
  obtain ⟨files, found, p, member, e, failed⟩ := unreadable
  have finding : (sources o s.workplace).Only [.note, .request] :=
    (sources_only o s.workplace).mono (by simp)
  unfold Only
  cases told : files.mapM Input.ofPath with
  | error e =>
    -- Some other path has no known language, and then nothing is read at all.
    rw [run_of_ofPath_error found told]
    exact ⟨e, rfl, finding⟩
  | ok inputs =>
    cases paths_of_mapM_ofPath told
    obtain ⟨input, present, rfl⟩ := List.mem_map.mp member
    obtain ⟨e', stopped⟩ := report_error (o := o) present failed
    rw [run_of_ofPath_ok found told, publish, bind_error stopped]
    refine ⟨e', rfl, fun event there => ?_⟩
    rcases List.mem_append.mp there with early | late
    · exact finding event early
    · exact report_only o s inputs event late

/-- A run that does not come to its report fails without printing or starting anything. -/
theorem stopped_or_prepared (o : Options) (s : Surroundings) :
    (∃ e, (run o s).run.value = .error e ∧ (run o s).Only [.note, .request]) ∨
      ∃ sources, Prepared o s.workplace sources := by
  by_cases unrecognised : Unrecognised o s.workplace
  · obtain ⟨e, stopped⟩ := run_unrecognised unrecognised
    refine .inl ⟨e, congrArg Traced.value stopped, ?_⟩
    rw [Only, stopped]
    exact (sources_only o s.workplace).mono (by simp)
  · by_cases unreadable : Unreadable o s.workplace
    · exact .inl (run_unreadable unreadable)
    · exact .inr (exists_prepared_iff.mpr ⟨unrecognised, unreadable⟩)

theorem run_prepared {sources : List Source} (prepared : Prepared o s.workplace sources) :
    (run o s).run =
      ⟨(Run.sources o s.workplace).run.effects ++
          ((sources.flatMap fun source => (entriesOf o s source.toInput).run.effects) ++
        .print (render o.format (reportOf o s.fetch sources)) ::
          (finish o s (sources.map (·.path))).run.effects),
        (finish o s (sources.map (·.path))).run.value⟩ := by
  have reported := report_run (o := o) prepared.readable
  rw [run_of_ofPath_ok prepared.expanded (ofPath_mapM_ok prepared.known), publish,
    bind_ok (congrArg Traced.value reported), reported]
  rfl

end Whole

end Run
end DocAnswers
