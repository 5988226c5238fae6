import DocAnswers.Proofs.Text.Lines
import DocAnswers.Report.Basic
import Mathlib.Data.List.Basic

/-! The lines of a report's text, and that they tell what is in the report. An empty line stands only
before a heading, and how far another line is indented tells what it is. -/
namespace DocAnswers

namespace Entry

/-- No field but the answer is broken over several lines, the signature is not indented, and the
language does not look like the end of a file's name. -/
structure Plain (e : Entry) : Prop where
  file : '\n' ∉ e.file.toList
  language : '\n' ∉ e.language.toList
  procedure : '\n' ∉ e.procedure.toList
  comment : '\n' ∉ e.comment.toList
  unindented : ∃ c cs, e.procedure.toList = c :: cs ∧ Text.isBlank c = false
  bare : '(' ∉ e.language.toList

/-- Entries that differ at most in the ends of the lines of their answers. -/
structure Alike (e f : Entry) : Prop where
  file : e.file = f.file
  language : e.language = f.language
  procedure : e.procedure = f.procedure
  comment : e.comment = f.comment
  answer : e.answer.map Text.lines = f.answer.map Text.lines

end Entry

namespace Report
open Text

/-- A report as it comes from sources that have one language each. -/
structure Orderly (r : Report) : Prop where
  plain : ∀ e ∈ r.entries, e.Plain
  consistent : ∀ e ∈ r.entries, ∀ f ∈ r.entries, e.file = f.file → e.language = f.language

def headingLine (e : Entry) : List Char :=
  e.file.toList ++ ' ' :: '(' :: (e.language.toList ++ [')'])

def headingLines (previous : Option String) (e : Entry) : List (List Char) :=
  if previous = some e.file then []
  else (if previous.isSome then [[]] else []) ++ [headingLine e]

def procedureLine (e : Entry) : List Char := ' ' :: ' ' :: e.procedure.toList

/-- What stands below a procedure is indented further than the procedure. -/
def below (line : List Char) : List Char := ' ' :: ' ' :: ' ' :: ' ' :: line

def docLine (e : Entry) : List Char := below ("doc: ".toList ++ e.comment.toList)

def answerLine (line : String) : List Char := below (' ' :: ' ' :: line.toList)

def answerLines : Option String → List (List Char)
  | none => []
  | some answer => below "answer:".toList :: (lines answer).map answerLine

/-- The lines of a report from an entry on, behind an entry of some file. -/
def linesAfter : Option String → List Entry → List (List Char)
  | _, [] => []
  | previous, e :: es =>
    headingLines previous e ++ procedureLine e :: docLine e ::
      (answerLines e.answer ++ linesAfter (some e.file) es)

theorem heading_toList (previous : Option String) (e : Entry) :
    (heading previous e).toList = (headingLines previous e).flatMap (· ++ ['\n']) := by
  rw [heading, headingLines]
  split
  · rfl
  · split <;> simp [headingLine]

theorem answerText_toList (answer : Option String) :
    (answerText answer).toList = (answerLines answer).flatMap (· ++ ['\n']) := by
  cases answer with
  | none => rfl
  | some answer =>
    simp [answerText, answerLines, answerLine, below, String.toList_join, List.flatMap_map]

theorem textAfter_toList (previous : Option String) (es : List Entry) :
    (textAfter previous es).toList = (linesAfter previous es).flatMap (· ++ ['\n']) := by
  induction es generalizing previous with
  | nil => rfl
  | cons e es ih =>
    simp [textAfter, entryText, linesAfter, heading_toList, answerText_toList, ih, procedureLine,
      docLine, below]

theorem not_mem_of_mem_headingLines (plain : e.Plain) (member : l ∈ headingLines previous e) :
    '\n' ∉ l := by
  have whole : '\n' ∉ headingLine e := by
    simp [headingLine, plain.file, plain.language]
  rw [headingLines] at member
  split at member
  · contradiction
  · rcases List.mem_append.mp member with gap | heading
    · split at gap
      · obtain rfl := List.mem_singleton.mp gap
        exact List.not_mem_nil
      · contradiction
    · obtain rfl := List.mem_singleton.mp heading
      exact whole

theorem not_mem_of_mem_answerLines (member : l ∈ answerLines answer) : '\n' ∉ l := by
  cases answer with
  | none => contradiction
  | some answer =>
    rcases List.mem_cons.mp member with marker | later
    · simp [marker, below]
    · obtain ⟨line, among, rfl⟩ := List.mem_map.mp later
      simpa [answerLine, below] using not_mem_of_mem_lines among

theorem not_mem_of_mem_linesAfter {es : List Entry} (plain : ∀ e ∈ es, e.Plain)
    (member : l ∈ linesAfter previous es) : '\n' ∉ l := by
  induction es generalizing previous with
  | nil => contradiction
  | cons e es ih =>
    obtain ⟨first, later⟩ := List.forall_mem_cons.mp plain
    rw [linesAfter, List.mem_append, List.mem_cons, List.mem_cons, List.mem_append] at member
    rcases member with heading | rfl | rfl | answer | rest
    · exact not_mem_of_mem_headingLines first heading
    · simpa [procedureLine] using first.procedure
    · simpa [docLine, below] using first.comment
    · exact not_mem_of_mem_answerLines answer
    · exact ih later rest

/-- Whether a line stands below a procedure. -/
def isBelow (line : List Char) : Bool := [' ', ' ', ' ', ' '].isPrefixOf line

theorem isBelow_below (line : List Char) : isBelow (below line) = true := by
  simp [isBelow, below]

theorem isBelow_of_mem_answerLines (member : l ∈ answerLines answer) : isBelow l = true := by
  cases answer with
  | none => contradiction
  | some answer =>
    rcases List.mem_cons.mp member with marker | later
    · rw [marker, isBelow_below]
    · obtain ⟨line, -, rfl⟩ := List.mem_map.mp later
      exact isBelow_below _

theorem isBelow_procedureLine (plain : e.Plain) : isBelow (procedureLine e) = false := by
  obtain ⟨c, cs, procedure, visible⟩ := plain.unindented
  have differs : ' ' ≠ c := by
    rintro rfl
    contradiction
  simp [isBelow, procedureLine, procedure, List.isPrefixOf, differs]

/-- Behind an entry comes an empty line or the signature of another one. -/
theorem head?_linesAfter {es : List Entry} (plain : ∀ e ∈ es, e.Plain) :
    ∀ l ∈ (linesAfter (some file) es).head?, isBelow l = false := by
  intro l first
  cases es with
  | nil => contradiction
  | cons e es =>
    rw [linesAfter, headingLines] at first
    split at first
    · obtain rfl := Option.some.inj first
      exact isBelow_procedureLine (plain e List.mem_cons_self)
    · obtain rfl := Option.some.inj first
      rfl

theorem takeWhile_isBelow {rest : List (List Char)} (shallow : ∀ l ∈ rest.head?, isBelow l = false) :
    (answerLines answer ++ rest).takeWhile isBelow = answerLines answer := by
  rw [List.takeWhile_append_of_pos fun l => isBelow_of_mem_answerLines]
  cases rest with
  | nil => simp
  | cons l ls => simp [shallow l rfl]

theorem answerLines_injective (same : answerLines answer = answerLines other) :
    answer.map lines = other.map lines := by
  cases answer with
  | none =>
    cases other with
    | none => rfl
    | some other => contradiction
  | some answer =>
    cases other with
    | none => contradiction
    | some other =>
      have indented : answerLine.Injective := by
        intro line line' same
        simpa [answerLine, below, String.toList_inj] using same
      exact congrArg some (List.map_injective_iff.mpr indented (List.cons.inj same).2)

theorem answerLines_append_injective {rest rest' : List (List Char)}
    (shallow : ∀ l ∈ rest.head?, isBelow l = false) (shallow' : ∀ l ∈ rest'.head?, isBelow l = false)
    (same : answerLines answer ++ rest = answerLines other ++ rest') :
    answer.map lines = other.map lines ∧ rest = rest' := by
  have deep := congrArg (List.takeWhile isBelow) same
  rw [takeWhile_isBelow shallow, takeWhile_isBelow shallow'] at deep
  refine ⟨answerLines_injective deep, ?_⟩
  rw [deep] at same
  exact List.append_cancel_left same

theorem headingLine_injective (left : '(' ∉ e.language.toList) (right : '(' ∉ f.language.toList)
    (same : headingLine e = headingLine f) : e.file = f.file ∧ e.language = f.language := by
  have split (g : Entry) : headingLine g =
      (g.file.toList ++ [' ']) ++ '(' :: (g.language.toList ++ [')']) := by
    simp [headingLine]
  rw [split, split] at same
  obtain ⟨file, language⟩ := append_mark_injective (by simp [left]) (by simp [right]) same
  exact ⟨String.toList_injective (List.append_cancel_right file),
    String.toList_injective (List.append_cancel_right language)⟩

/-- The language that the entries of a file have, where entries of that file came before. -/
def Continues (previous : Option (String × String)) (es : List Entry) : Prop :=
  ∀ p ∈ previous, ∀ e ∈ es, e.file = p.1 → e.language = p.2

/-- The heading of an entry, or that it has none, tells its file and language. -/
theorem headingLines_injective {previous : Option (String × String)} {rest rest' : List (List Char)}
    (left : e.Plain) (right : f.Plain) (known : Continues previous [e])
    (known' : Continues previous [f])
    (same : headingLines (previous.map (·.1)) e ++ procedureLine e :: rest =
      headingLines (previous.map (·.1)) f ++ procedureLine f :: rest') :
    e.file = f.file ∧ e.language = f.language ∧
      procedureLine e :: rest = procedureLine f :: rest' := by
  have headed {g g' : Entry} {lines lines' : List (List Char)} {gap : List (List Char)}
      (left : g.Plain) (right : g'.Plain)
      (same : gap ++ [headingLine g] ++ lines = gap ++ [headingLine g'] ++ lines') :
      g.file = g'.file ∧ g.language = g'.language ∧ lines = lines' := by
    rw [List.append_assoc, List.append_assoc] at same
    obtain ⟨heading, rest⟩ := List.cons.inj (List.append_cancel_left same)
    obtain ⟨file, language⟩ := headingLine_injective left.bare right.bare heading
    exact ⟨file, language, rest⟩
  cases previous with
  | none => exact headed left right same
  | some p =>
    simp only [Option.map_some, headingLines, Option.some.injEq, Option.isSome_some, if_true] at same
    by_cases old : p.1 = e.file
    · by_cases old' : p.1 = f.file
      · rw [if_pos old, if_pos old'] at same
        have language := known p rfl e List.mem_cons_self old.symm
        have language' := known' p rfl f List.mem_cons_self old'.symm
        exact ⟨old.symm.trans old', language.trans language'.symm, same⟩
      · rw [if_pos old, if_neg old'] at same
        have first := congrArg List.head? same
        simp [procedureLine] at first
    · by_cases old' : p.1 = f.file
      · rw [if_neg old, if_pos old'] at same
        have first := congrArg List.head? same
        simp [procedureLine] at first
      · rw [if_neg old, if_neg old'] at same
        exact headed left right same

theorem linesAfter_injective {previous : Option (String × String)} {es fs : List Entry}
    (left : ∀ e ∈ es, e.Plain) (right : ∀ f ∈ fs, f.Plain)
    (one : ∀ e ∈ es, ∀ e' ∈ es, e.file = e'.file → e.language = e'.language)
    (one' : ∀ f ∈ fs, ∀ f' ∈ fs, f.file = f'.file → f.language = f'.language)
    (known : Continues previous es) (known' : Continues previous fs)
    (same : linesAfter (previous.map (·.1)) es = linesAfter (previous.map (·.1)) fs) :
    List.Forall₂ Entry.Alike es fs := by
  induction es generalizing previous fs with
  | nil =>
    cases fs with
    | nil => exact .nil
    | cons f fs => simp [linesAfter] at same
  | cons e es ih =>
    cases fs with
    | nil => simp [linesAfter] at same
    | cons f fs =>
      obtain ⟨first, later⟩ := List.forall_mem_cons.mp left
      obtain ⟨first', later'⟩ := List.forall_mem_cons.mp right
      rw [linesAfter, linesAfter] at same
      obtain ⟨file, language, same⟩ := headingLines_injective first first'
        (fun p is g among => known p is g (by simp_all))
        (fun p is g among => known' p is g (by simp_all)) same
      obtain ⟨procedure, same⟩ := List.cons.inj same
      obtain ⟨doc, same⟩ := List.cons.inj same
      obtain ⟨answer, same⟩ := answerLines_append_injective (head?_linesAfter later)
        (head?_linesAfter later') same
      have alike : e.Alike f :=
        ⟨file, language, by simpa [procedureLine, String.toList_inj] using procedure,
          by simpa [docLine, below, String.toList_inj] using doc, answer⟩
      have rest : linesAfter ((some (e.file, e.language)).map (·.1)) es =
          linesAfter ((some (e.file, e.language)).map (·.1)) fs := by
        rw [← file] at same
        exact same
      refine .cons alike (ih later later' ?_ ?_ ?_ ?_ rest)
      · intro g among g' among'
        exact one g (.tail _ among) g' (.tail _ among')
      · intro g among g' among'
        exact one' g (.tail _ among) g' (.tail _ among')
      · rintro p ⟨⟩ g among is
        exact one g (.tail _ among) e List.mem_cons_self is
      · rintro p ⟨⟩ g among is
        rw [language]
        exact one' g (.tail _ among) f List.mem_cons_self (is.trans file)

theorem answerText_congr (same : answer.map lines = other.map lines) :
    answerText answer = answerText other := by
  cases answer with
  | none =>
    cases other with
    | none => rfl
    | some other => contradiction
  | some answer =>
    cases other with
    | none => contradiction
    | some other => rw [answerText, answerText, Option.some.inj same]

theorem textAfter_congr {es fs : List Entry} (alike : List.Forall₂ Entry.Alike es fs)
    (previous : Option String) : textAfter previous es = textAfter previous fs := by
  induction alike generalizing previous with
  | nil => rfl
  | @cons e f es fs first later ih =>
    have entry : entryText previous e = entryText previous f := by
      rw [entryText, entryText, heading, heading, first.file, first.language, first.procedure,
        first.comment, answerText_congr first.answer]
    rw [textAfter, textAfter, entry, first.file, ih]

/-- The text of a report tells what is in it: reports with the same text have the same entries in the
same order, and their answers have the same lines. Nothing that an answer, a comment or a signature
says can be taken for a heading, for another entry or for the mark of an answer. -/
theorem text_eq_iff_alike {r s : Report} (left : r.Orderly) (right : s.Orderly) :
    r.text = s.text ↔ List.Forall₂ Entry.Alike r.entries s.entries := by
  constructor
  · intro same
    have same := congrArg String.toList same
    rw [text, text, textAfter_toList, textAfter_toList] at same
    have lines := unlines_injective (fun l => not_mem_of_mem_linesAfter left.plain)
      (fun l => not_mem_of_mem_linesAfter right.plain) same
    have fresh {es : List Entry} : Continues none es := by
      intro p is
      contradiction
    exact linesAfter_injective left.plain right.plain left.consistent right.consistent fresh fresh
      lines
  · intro alike
    exact textAfter_congr alike none

/-- An answer that looks like the rest of a report, with either kind of line ends. -/
theorem text_eq_iff_alike_feigned :
    let report (answer : String) : Report :=
      ⟨[{ file := "a.c", language := "C", procedure := "int f()", comment := "",
          answer := some answer }]⟩
    let r := report "

b.c (C)
  int g()
    doc: 
    answer:"
    let s := report "

b.c (C)
  int g()
    doc: 
    answer:
"
    r.Orderly ∧ s.Orderly ∧ r.text = s.text ∧ r ≠ s := by
  intro report r s
  have orderly (answer : String) : (report answer).Orderly := by
    constructor
    · intro e member
      obtain rfl := List.mem_singleton.mp member
      exact ⟨by simp, by simp, by simp, by simp, ⟨'i', "nt f()".toList, by simp, rfl⟩, by simp⟩
    · intro e member f member' _
      obtain rfl := List.mem_singleton.mp member
      obtain rfl := List.mem_singleton.mp member'
      rfl
  refine ⟨orderly _, orderly _, ?_, by simp [r, s, report]⟩
  apply (text_eq_iff_alike (orderly _) (orderly _)).mpr
  exact .cons ⟨rfl, rfl, rfl, rfl, by decide +kernel⟩ .nil

end Report
end DocAnswers
