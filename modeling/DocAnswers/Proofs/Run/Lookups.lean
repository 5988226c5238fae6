import DocAnswers.Proofs.CommandLine.Clauses
import DocAnswers.Proofs.Lookup.Requests
import DocAnswers.Proofs.Run.Contents

/-! Lookups add answers to a report and change nothing else: a run without them succeeds and fails as
the one with them, starts the same commands and reports the same procedures. -/
namespace DocAnswers

/-- An entry as it is where no answer was looked for. -/
def Entry.unanswered (e : Entry) : Entry := { e with answer := none }

def Report.unanswered (r : Report) : Report := ⟨r.entries.map (·.unanswered)⟩

def Options.withoutLookup (o : Options) : Options := { o with lookup := false }

namespace CommandLine

theorem noLookup_only : Item.Only (.switch .noLookup) fun o => { o with lookup := true } where
  initial := rfl
  paths := fun _ _ => rfl
  assign := fun s _ value o => by
    cases s with
    | timeout | format => simp only [Setting.assign?, Option.map_map]; rfl
    | _ => rfl
  apply := fun s other o => by
    cases s with
    | noLookup => contradiction
    | _ => rfl
  assigned := fun s own => by contradiction
  applied := fun s own => by
    cases own
    exact ⟨by decide, fun o => rfl⟩
  unset := fun s own => by contradiction

theorem lookup_of_assign? {s : Setting} (assigned : s.assign? value o = some o') :
    o'.lookup = o.lookup := by
  cases s with
  | timeout | format =>
    obtain ⟨_, -, rfl⟩ := Option.map_eq_some_iff.mp assigned
    rfl
  | _ => cases assigned; rfl

namespace Given

/-- Only a clause for it turns lookups off. -/
theorem lookup_of_obey {c : Clause} {g g' : Given} (done : g.obey c = .ok g') :
    g'.options.lookup = (g.options.lookup && decide (c.item? ≠ some (.switch .noLookup))) := by
  cases c with
  | paths paths => cases done; simp [addPaths, Clause.item?]
  | set s value =>
    obtain ⟨o, assigned, rfl⟩ := of_set done
    simp [Clause.item?, lookup_of_assign? assigned]
  | turnOn s =>
    cases of_turnOn done
    cases s <;> simp [Clause.item?, Switch.apply]
  | misuse e => contradiction

theorem lookup_of_foldlM_obey {cs : List Clause} {g g' : Given} (done : cs.foldlM obey g = .ok g') :
    g'.options.lookup =
      (g.options.lookup && (cs.filter fun c => c.item? = some (.switch .noLookup)).isEmpty) := by
  induction cs generalizing g with
  | nil => cases done; simp
  | cons c cs ih =>
    rw [List.foldlM_cons] at done
    cases first : g.obey c with
    | error e => rw [first] at done; contradiction
    | ok g₁ =>
      rw [first] at done
      rw [ih done, lookup_of_obey first]
      by_cases own : c.item? = some (.switch .noLookup) <;> simp [own]

theorem lookup_of_fillOne {env : List (String × String)} {g g' : Given} {s : Setting}
    (done : fillOne env g s = .ok g') : g'.options.lookup = g.options.lookup := by
  simp only [fillOne] at done
  split at done
  · cases done; rfl
  · split at done
    · cases done; rfl
    · obtain ⟨o, assigned, rfl⟩ := of_set done
      exact lookup_of_assign? assigned

theorem lookup_of_fill {env : List (String × String)} {ss : List Setting} {g g' : Given}
    (done : ss.foldlM (fillOne env) g = .ok g') : g'.options.lookup = g.options.lookup := by
  induction ss generalizing g with
  | nil => cases done; rfl
  | cons s ss ih =>
    rw [List.foldlM_cons] at done
    cases first : fillOne env g s with
    | error e => rw [first] at done; contradiction
    | ok g₁ =>
      rw [first] at done
      rw [ih done, lookup_of_fillOne first]

end Given

theorem lookup_of_read {args : List String} {env : List (String × String)}
    (accepted : read args env = .ok o) :
    o.lookup = (given (.switch .noLookup) args).isEmpty := by
  rw [read_eq_optionsOf, optionsOf] at accepted
  cases obeyed : (clauses args).foldlM Given.obey {} with
  | error e => rw [obeyed] at accepted; contradiction
  | ok g =>
    rw [obeyed] at accepted
    cases filled : g.fill env with
    | error e => simp [bind, Except.bind, filled] at accepted
    | ok g' =>
      simp only [bind, Except.bind, filled] at accepted
      cases accepted
      rw [Given.lookup_of_fill filled, Given.lookup_of_foldlM_obey obeyed, given]
      rfl

/-- The switch for it does no more than to turn lookups off. -/
theorem read_withoutLookup {args args' : List String}
    (looking : given (.switch .noLookup) args = [])
    (silent : given (.switch .noLookup) args' = [.turnOn .noLookup])
    (same : apartFrom (.switch .noLookup) args = apartFrom (.switch .noLookup) args')
    (env : List (String × String)) :
    read args' env = (read args env).map Options.withoutLookup := by
  have alike := read_alike noLookup_only (by simp [looking]) (by simp [silent]) same env
  cases accepted : read args env with
  | error e =>
    cases accepted' : read args' env <;> simp_all [Except.map]
  | ok o =>
    cases accepted' : read args' env with
    | error e => simp [accepted, accepted', Except.map] at alike
    | ok o' =>
      have off : o'.lookup = false := by rw [lookup_of_read accepted', silent]; rfl
      simp only [accepted, accepted', Except.map, Except.ok.injEq] at alike
      refine congrArg Except.ok ?_
      calc o' = { o' with lookup := false } := by rw [← off]
        _ = { ({ o' with lookup := true } : Options) with lookup := false } := rfl
        _ = o.withoutLookup := by rw [← alike]; rfl

end CommandLine

namespace Run
open Attempt FileTree
variable {o : Options} {s : Surroundings}

section WithoutLookup

theorem entriesOf_withoutLookup (o : Options) (s : Surroundings) (input : Input) :
    (entriesOf o.withoutLookup s input).run.value =
      (entriesOf o s input).run.value.map (List.map (·.unanswered)) := by
  have same : procedures o.withoutLookup s.workplace input.path =
      procedures o s.workplace input.path := rfl
  rw [entriesOf, entriesOf, bind_value, bind_value, same]
  cases (procedures o s.workplace input.path).run.value with
  | error e => rfl
  | ok found =>
    refine congrArg Except.ok ?_
    simp only [Traced.mapM_value, entry_value, List.map_map]
    rfl

theorem mapM_entriesOf_withoutLookup (o : Options) (s : Surroundings) (inputs : List Input) :
    (inputs.mapM fun input => (entriesOf o.withoutLookup s input).run.value) =
      (inputs.mapM fun input => (entriesOf o s input).run.value).map
        (List.map (List.map (·.unanswered))) := by
  induction inputs with
  | nil => rfl
  | cons input inputs ih =>
    rw [List.mapM_cons, List.mapM_cons, ih, entriesOf_withoutLookup]
    cases (entriesOf o s input).run.value with
    | error e => rfl
    | ok es => cases inputs.mapM fun input => (entriesOf o s input).run.value <;> rfl

theorem report_withoutLookup (o : Options) (s : Surroundings) (inputs : List Input) :
    (report o.withoutLookup s inputs).run.value =
      (report o s inputs).run.value.map (·.unanswered) := by
  rw [report, report, bind_value, bind_value, mapM_value, mapM_value, mapM_entriesOf_withoutLookup]
  cases inputs.mapM fun input => (entriesOf o s input).run.value with
  | error e => rfl
  | ok ess => exact congrArg (fun es => Except.ok (Report.mk es)) List.map_flatten.symm

theorem run_withoutLookup_value (o : Options) (s : Surroundings) :
    (run o.withoutLookup s).run.value = (run o s).run.value := by
  rw [run_value, run_value]
  refine congrArg _ (funext fun files => congrArg _ (funext fun inputs => ?_))
  rw [report_withoutLookup]
  cases (report o s inputs).run.value <;> rfl

theorem prepared_withoutLookup_iff {w : Workplace} {sources : List Source} :
    Prepared o.withoutLookup w sources ↔ Prepared o w sources :=
  ⟨fun ⟨found, known, readable⟩ => ⟨found, known, readable⟩,
    fun ⟨found, known, readable⟩ => ⟨found, known, readable⟩⟩

theorem unprepared_withoutLookup {w : Workplace} (unprepared : ∀ sources, ¬Prepared o w sources) :
    ∀ sources, ¬Prepared o.withoutLookup w sources :=
  fun sources prepared => unprepared sources (prepared_withoutLookup_iff.mp prepared)

theorem reportOf_withoutLookup (o : Options) (fetch : Fetcher) (sources : List Source) :
    reportOf o.withoutLookup fetch sources = (reportOf o fetch sources).unanswered := by
  refine congrArg Report.mk ?_
  rw [reportOf, List.map_flatMap]
  refine congrArg (sources.flatMap ·) (funext fun source => ?_)
  rw [Source.entries, Source.entries, List.map_map]
  rfl

theorem commands_run_withoutLookup (o : Options) (s : Surroundings) :
    Effect.commands (run o.withoutLookup s).run.effects = Effect.commands (run o s).run.effects := by
  by_cases prepared : ∃ sources, Prepared o s.workplace sources
  · obtain ⟨sources, prepared⟩ := prepared
    rw [commands_run prepared, commands_run (prepared_withoutLookup_iff.mpr prepared)]
    rfl
  · have unprepared := not_exists.mp prepared
    rw [(run_only_of_unprepared unprepared).commands_eq_nil (by decide),
      (run_only_of_unprepared (unprepared_withoutLookup unprepared)).commands_eq_nil (by decide)]

end WithoutLookup

theorem answer_of_mem_reportOf (looking : o.lookup = true) {fetch : Fetcher} {sources : List Source}
    (member : e ∈ (reportOf o fetch sources).entries) :
    e.answer = some (searchFor o fetch e.comment e.language).value := by
  obtain ⟨source, -, there⟩ := List.mem_flatMap.mp member
  rw [source.answer_of_mem_entries there, if_pos looking]

open CommandLine in
/-- Of two command lines that say the same apart from the switch for it, the one with the switch makes
the run end in the same way, start the same commands in the same order and report the same entries,
but without the answers that the other one has in all of them. When nothing can be fetched these say
that there is no answer. -/
theorem lookups_only_add_answers {args args' : List String}
    (looking : given (.switch .noLookup) args = [])
    (silent : given (.switch .noLookup) args' = [.turnOn .noLookup])
    (same : apartFrom (.switch .noLookup) args = apartFrom (.switch .noLookup) args')
    (env : List (String × String)) (s : Surroundings) :
    let seen := Program.start args env s
    let seen' := Program.start args' env s
    seen'.exit = seen.exit ∧
    CommandLine.read args' env = (CommandLine.read args env).map Options.withoutLookup ∧
    ∀ o, CommandLine.read args env = .ok o →
      (run o.withoutLookup s).run.value = (run o s).run.value ∧
      Effect.commands (run o.withoutLookup s).run.effects =
        Effect.commands (run o s).run.effects ∧
      ((∀ sources, ¬Prepared o s.workplace sources) → seen.stdout = "" ∧ seen'.stdout = "") ∧
      ∀ sources, Prepared o s.workplace sources →
        let r := reportOf o s.fetch sources
        seen.stdout = render o.format r ∧
        seen'.stdout = render o.format r.unanswered ∧
        (∀ e ∈ r.entries, ∃ answer, e.answer = some answer) ∧
        ((∀ url, ∃ e, s.fetch url = .error e) →
          ∀ e ∈ r.entries, e.answer = some Answer.absent) := by
  have options := read_withoutLookup looking silent same env
  refine ⟨?_, options, fun o accepted => ?_⟩
  · cases accepted : CommandLine.read args env with
    | error stop =>
      rw [accepted] at options
      rw [Program.start_congr_of_error options accepted]
    | ok o =>
      rw [accepted] at options
      rw [Program.start_of_read accepted, Program.start_of_read options]
      simp only [Program.outcome, run_withoutLookup_value]
  · rw [accepted] at options
    rw [Program.start_of_read accepted, Program.start_of_read options]
    have on : o.lookup = true := by rw [lookup_of_read accepted, looking]; rfl
    refine ⟨run_withoutLookup_value o s, commands_run_withoutLookup o s, ?_, ?_⟩
    · intro unprepared
      have stopped := run_only_of_unprepared unprepared
      have stopped' := run_only_of_unprepared (unprepared_withoutLookup unprepared)
      exact ⟨stopped.printed_eq_empty (by decide), stopped'.printed_eq_empty (by decide)⟩
    · intro sources prepared r
      refine ⟨run_printed prepared, ?_, fun e member => ⟨_, answer_of_mem_reportOf on member⟩, ?_⟩
      · have printed := run_printed (prepared_withoutLookup_iff.mpr prepared)
        rwa [reportOf_withoutLookup] at printed
      · intro unserved e member
        obtain ⟨error, failed⟩ := unserved
          (o.engine.url (Search.query e.comment (some e.language)))
        rw [answer_of_mem_reportOf on member, searchFor, Lookup.search_of_failed failed]

/-- A run that builds its one source, next to the one that does not look anything up. -/
theorem lookups_only_add_answers_unserved :
    let source : Source :=
      ⟨⟨⟨"a.c"⟩, .c⟩, " * Adds one.\nint next(int n)\n".toUTF8.toList⟩
    let folder := FileTree.folder true [("a.c", .file (some source.content))]
    let s : Surroundings :=
      { workplace := ⟨⟨folder, []⟩, none⟩, fetch := .unserved, exec := fun _ _ => .ok () }
    let o : Options := { paths := ["a.c"] }
    let e : Entry :=
      { file := "a.c", language := "C", procedure := "int next(int n)", comment := "Adds one." }
    (Program.start ["--no-lookup", "a.c"] [] s).stdout = render .text ⟨[e]⟩ ∧
      (∃ r, (Program.start ["a.c"] [] s).stdout = render .text r ∧ r.unanswered = ⟨[e]⟩ ∧
        ∀ e ∈ r.entries, e.answer = some Answer.absent) ∧
      Effect.commands (run o.withoutLookup s).run.effects =
        Effect.commands (run o s).run.effects := by
  intro source folder s o e
  have known : Language.ofPath? ⟨"a.c"⟩ = some .c := by rfl
  have readable : bytes s.workplace ⟨"a.c"⟩ = .ok source.content := by rfl
  have prepared : Prepared o s.workplace [source] :=
    ⟨by rfl, List.forall_mem_singleton.mpr known, List.forall_mem_singleton.mpr readable⟩
  have reported : (reportOf o s.fetch [source]).unanswered = ⟨[e]⟩ := by decide +kernel
  obtain ⟨-, -, runs⟩ := @lookups_only_add_answers ["a.c"] ["--no-lookup", "a.c"]
    (by decide) (by decide) (by decide) [] s
  obtain ⟨-, commands, -, printed⟩ := runs o rfl
  obtain ⟨seen, seen', -, absent⟩ := printed [source] prepared
  refine ⟨?_, ⟨_, seen, reported, absent fun url => ⟨_, rfl⟩⟩, commands⟩
  rw [seen', reported]

end Run
end DocAnswers
