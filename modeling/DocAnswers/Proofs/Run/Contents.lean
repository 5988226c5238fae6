import DocAnswers.Proofs.Path.Shown
import DocAnswers.Proofs.Report.Groups
import DocAnswers.Proofs.Run.AllOrNothing
import Mathlib.Data.List.Basic

/-! The report of a run is put together from what each source has by itself, in the order of the
sources, and so are the lookups. In a text, a source has a heading of its own unless the source before
it is shown by the same text, which happens only to paths that are no text. -/
namespace DocAnswers.Run
open Attempt FileTree

variable {o : Options} {s : Surroundings} {sources : List Source}

/-- Only a run with all its sources prints, and what it prints is their report. -/
theorem prepared_of_print (printed : .print text ∈ (run o s).run.effects) :
    ∃ sources, Prepared o s.workplace sources ∧
      text = render o.format (reportOf o s.fetch sources) := by
  rcases stopped_or_prepared o s with ⟨e, -, only⟩ | ⟨sources, prepared⟩
  · exact absurd (only _ printed) (by simp [Effect.kind])
  · obtain ⟨before, early, effects⟩ := run_effects prepared
    rw [effects] at printed
    refine ⟨sources, prepared, ?_⟩
    rcases List.mem_append.mp printed with reading | later
    · exact absurd (early _ reading) (by simp [Effect.kind])
    · rcases List.mem_cons.mp later with is | building
      · exact Effect.print.inj is
      · exact absurd (finish_only o s _ _ building) (by simp [Effect.kind])

theorem Prepared.distinct (prepared : Prepared o w sources) : Path.Distinct (sources.map (·.path)) :=
  (Sources.expand_ascending prepared.expanded).distinct

theorem Source.answer_of_mem_entries {source : Source} {e : Entry} {fetch : Fetcher}
    (member : e ∈ source.entries o fetch) :
    e.answer = if o.lookup then some (searchFor o fetch e.comment e.language).value else none := by
  obtain ⟨p, -, rfl⟩ := List.mem_map.mp member
  rfl

theorem requests_run (prepared : Prepared o s.workplace sources) :
    Effect.requests (run o s).run.effects =
      if o.lookup then (reportOf o s.fetch sources).entries.flatMap fun e =>
        Effect.requests (searchFor o s.fetch e.comment e.language).effects
      else [] := by
  have finding := (sources_only o s.workplace).requests_eq_nil (by decide)
  have building := (finish_only o s (sources.map (·.path))).requests_eq_nil (by decide)
  have reading : (sources.flatMap fun source =>
      Effect.requests (entriesOf o s source.toInput).run.effects) = sources.flatMap fun source =>
        if o.lookup then (source.entries o s.fetch).flatMap fun e =>
          Effect.requests (searchFor o s.fetch e.comment e.language).effects
        else [] := List.flatMap_congr fun source member => by
    rw [requests_entriesOf source (prepared.readable source member), Source.entries,
      List.flatMap_map]
  have printing (text : String) (es : List Effect) :
      Effect.requests (.print text :: es) = Effect.requests es := rfl
  rw [run_prepared prepared]
  simp only [Effect.requests_append, Effect.requests_flatMap, printing, finding, building, reading,
    List.nil_append, List.append_nil, reportOf]
  split
  · rw [List.flatMap_assoc]
  · simp

/-- The sources that have documented procedures. -/
def documented (o : Options) (sources : List Source) : List Source :=
  sources.filter fun source => !(source.procedures o.convention).isEmpty

/-- What stands in a text for a source below a heading of its own. -/
def Source.paragraph (o : Options) (fetch : Fetcher) (source : Source) : String :=
  source.path.text ++ " (" ++ source.language.name ++ ")\n" ++
    String.join ((source.entries o fetch).map Report.bodyText)

section Text
variable {source : Source} {fetch : Fetcher}

theorem flatten_entries (o : Options) (fetch : Fetcher) (sources : List Source) :
    ((documented o sources).map (·.entries o fetch)).flatten =
      sources.flatMap (·.entries o fetch) := by
  induction sources with
  | nil => rfl
  | cons source sources ih =>
    rw [documented] at ih
    rw [documented, List.filter_cons, List.flatMap_cons]
    cases none : source.procedures o.convention with
    | nil => simpa [Source.entries, none] using ih
    | cons p ps => simpa using ih

theorem Source.file_of_mem_entries (member : e ∈ source.entries o fetch) :
    e.file = source.path.text ∧ e.language = source.language.name := by
  obtain ⟨p, -, rfl⟩ := List.mem_map.mp member
  exact ⟨rfl, rfl⟩

theorem Source.exists_entries (member : source ∈ documented o sources) :
    ∃ e es, source.entries o fetch = e :: es ∧ e.file = source.path.text ∧
      e.language = source.language.name := by
  have some : source.entries o fetch ≠ [] := by
    simpa [Source.entries] using (List.mem_filter.mp member).2
  obtain ⟨e, es, is⟩ := List.exists_cons_of_ne_nil some
  exact ⟨e, es, is, Source.file_of_mem_entries (is ▸ List.mem_cons_self)⟩

theorem Source.fileOf?_entries (member : source ∈ documented o sources) :
    Report.fileOf? (source.entries o fetch) = some source.path.text := by
  obtain ⟨e, es, is, file, -⟩ := Source.exists_entries member
  rw [is, ← file]
  rfl

theorem Source.groupText_entries (member : source ∈ documented o sources) :
    Report.groupText (source.entries o fetch) = source.paragraph o fetch := by
  obtain ⟨e, es, is, file, language⟩ := Source.exists_entries member
  rw [Source.paragraph, is, ← file, ← language]
  rfl

/-- Every source with documented procedures has a heading just if no two of them in a row are shown by
one text. -/
theorem text_reportOf_eq_iff : (reportOf o fetch sources).text =
    "\n".intercalate ((documented o sources).map (·.paragraph o fetch)) ↔
      (documented o sources).IsChain fun a b => a.path.text ≠ b.path.text := by
  have ofOneFile : ∀ g ∈ (documented o sources).map (·.entries o fetch), Report.OfOneFile g := by
    intro g listed
    obtain ⟨source, member, rfl⟩ := List.mem_map.mp listed
    obtain ⟨e, es, is, -⟩ := Source.exists_entries member
    refine ⟨is ▸ List.cons_ne_nil e es, fun e' inside => ?_⟩
    rw [Source.fileOf?_entries member, (Source.file_of_mem_entries inside).1]
  have texts : ((documented o sources).map (·.entries o fetch)).map Report.groupText =
      (documented o sources).map (·.paragraph o fetch) := by
    rw [List.map_map]
    refine List.map_congr_left fun source member => ?_
    rw [Function.comp_apply, Source.groupText_entries member]
  have files : ((documented o sources).map (·.entries o fetch)).map Report.fileOf? =
      ((documented o sources).map (·.path.text)).map some := by
    rw [List.map_map, List.map_map]
    refine List.map_congr_left fun source member => ?_
    rw [Function.comp_apply, Function.comp_apply, Source.fileOf?_entries member]
  have headed := Report.text_flatten_eq_iff ofOneFile
  rw [flatten_entries, texts, files, List.isChain_map, List.isChain_map] at headed
  simpa [reportOf] using headed

end Text

/-- Sources that are text have different texts. -/
theorem Prepared.isChain_of_isText (prepared : Prepared o w sources)
    (texts : ∀ source ∈ sources, source.path.IsText) :
    (documented o sources).IsChain fun a b => a.path.text ≠ b.path.text := by
  have isText : ∀ p ∈ sources.map (·.path), p.IsText := by
    intro p listed
    obtain ⟨source, member, rfl⟩ := List.mem_map.mp listed
    exact texts source member
  have apart := prepared.distinct.texts_nodup isText
  rw [List.map_map] at apart
  exact ((List.pairwise_map.mp apart).sublist List.filter_sublist).isChain

/-- A run that comes to its report tells of each source what stands in it: the documented procedures
of the source in their order, each with the answer to a lookup of its own, and no lookup is made but
these. A text has one heading for each run of entries with one text for their file. So every source with
documented procedures has one heading if and only if no two of them in a row are shown by one text, as
is the case when all sources are text. -/
theorem run_reports_each_source_iff (printed : .print text ∈ (run o s).run.effects) :
    ∃ sources : List Source, Prepared o s.workplace sources ∧
      Path.Distinct (sources.map (·.path)) ∧
      text = render o.format ⟨sources.flatMap (·.entries o s.fetch)⟩ ∧
      (∀ source ∈ sources,
        (source.entries o s.fetch).map (fun e => (e.file, e.language, e.procedure, e.comment)) =
          (source.procedures o.convention).map fun p =>
            (source.path.text, source.language.name, p.signature, p.doc)) ∧
      (∀ source ∈ sources, ∀ e ∈ source.entries o s.fetch,
        e.answer =
          if o.lookup then some (searchFor o s.fetch e.comment e.language).value else none) ∧
      (Effect.requests (run o s).run.effects =
        if o.lookup then (sources.flatMap (·.entries o s.fetch)).flatMap fun e =>
          Effect.requests (searchFor o s.fetch e.comment e.language).effects
        else []) ∧
      (o.format = .text →
        text = "\n".intercalate
          ((Report.mk (sources.flatMap (·.entries o s.fetch))).runs.map Report.groupText) ∧
        (text = "\n".intercalate ((documented o sources).map (·.paragraph o s.fetch)) ↔
          (documented o sources).IsChain fun a b => a.path.text ≠ b.path.text) ∧
        ((∀ source ∈ sources, source.path.IsText) →
          (documented o sources).IsChain fun a b => a.path.text ≠ b.path.text)) := by
  obtain ⟨sources, prepared, rfl⟩ := prepared_of_print printed
  refine ⟨sources, prepared, prepared.distinct, rfl, ?_, ?_, requests_run prepared, ?_⟩
  · intro source _
    rw [Source.entries, List.map_map]
    rfl
  · intro source _ e member
    exact source.answer_of_mem_entries member
  · intro text
    rw [text]
    exact ⟨Report.text_eq_runs _, text_reportOf_eq_iff, prepared.isChain_of_isText⟩

/-- A folder with an empty source, which leaves no trace, and one with a documented procedure. -/
theorem run_reports_each_source_of_folder :
    let source := FileTree.file (some " * Adds one.\nint next(int n)\n".toUTF8.toList)
    let folder := FileTree.folder true [("b.c", .file (some [])), ("a.c", source)]
    let s : Surroundings :=
      { workplace := ⟨⟨folder, []⟩, none⟩, fetch := .unserved, exec := fun _ _ => .ok () }
    let o : Options := { lookup := false, build := false }
    let text := "./a.c (C)\n  int next(int n)\n    doc: Adds one.\n"
    .print text ∈ (run o s).run.effects ∧ Effect.requests (run o s).run.effects = [] ∧
      ∃ sources, Prepared o s.workplace sources ∧
        text = (Report.mk (sources.flatMap (·.entries o s.fetch))).text := by
  intro source folder s o text
  have printed : .print text ∈ (run o s).run.effects := by decide +kernel
  obtain ⟨sources, prepared, -, is, -, -, requests, -⟩ := run_reports_each_source_iff printed
  exact ⟨printed, requests, sources, prepared, is⟩

/-- Two sources with documented procedures that are shown alike stand below one heading. -/
theorem run_heads_two_sources_once :
    let next := FileTree.file (some " * Adds one.\nint next(int n)\n".toUTF8.toList)
    let last := FileTree.file (some " * Takes one.\nint last(int n)\n".toUTF8.toList)
    let folder := FileTree.folder true [([0xE8, 0x2E, 0x63], next), ([0xE9, 0x2E, 0x63], last)]
    let s : Surroundings :=
      { workplace := ⟨⟨folder, []⟩, none⟩, fetch := .unserved, exec := fun _ _ => .ok () }
    let files : List Path := [⟨[0x2E, 0x2F, 0xE8, 0x2E, 0x63]⟩, ⟨[0x2E, 0x2F, 0xE9, 0x2E, 0x63]⟩]
    (Sources.expand s.workplace ["."]).run.value = .ok files ∧ Path.Distinct files ∧
      .print ("./\uFFFD.c (C)\n  int next(int n)\n    doc: Adds one.\n" ++
          "  int last(int n)\n    doc: Takes one.\n") ∈
        (run { lookup := false, build := false } s).run.effects := by
  intro next last folder s files
  exact ⟨rfl, by decide, by decide +kernel⟩

end DocAnswers.Run
