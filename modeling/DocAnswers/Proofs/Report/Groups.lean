import DocAnswers.Report.Basic
import Mathlib.Data.List.SplitBy

/-! The text of a report in groups of entries, each of one file. The renderer compares an entry with the
one before it only. So every run of entries with one file has one heading, and groups have a heading
each just if two groups that are next to each other are never of one file. -/
namespace DocAnswers.Report

/-- What stands in the text for an entry, below the heading of its file. -/
def bodyText (e : Entry) : String :=
  "  " ++ e.procedure ++ "\n" ++ "    doc: " ++ e.comment ++ "\n" ++ answerText e.answer

/-- What stands for some entries below one heading, which is that of the first of them. -/
def groupText : List Entry → String
  | [] => ""
  | e :: es => e.file ++ " (" ++ e.language ++ ")\n" ++ String.join ((e :: es).map bodyText)

/-- The file of some entries, if there are any. -/
def fileOf? (g : List Entry) : Option String := g.head?.map (·.file)

/-- What comes before a heading. -/
def gap (previous : Option String) : String := if previous.isSome then "\n" else ""

/-- All groups below headings of their own. -/
def groupsText : Option String → List (List Entry) → String
  | _, [] => ""
  | previous, g :: gs => gap previous ++ groupText g ++ groupsText (fileOf? g) gs

theorem entryText_same (e : Entry) : entryText (some e.file) e = bodyText e := by
  simp [entryText, heading, bodyText, String.append_assoc]

theorem entryText_new (new : previous ≠ some e.file) :
    entryText previous e = gap previous ++ e.file ++ " (" ++ e.language ++ ")\n" ++ bodyText e := by
  simp only [entryText, heading, if_neg new, gap, bodyText, String.append_assoc]

theorem textAfter_same {es : List Entry} (of_file : ∀ e ∈ es, e.file = file) (others : List Entry) :
    textAfter (some file) (es ++ others) =
      String.join (es.map bodyText) ++ textAfter (some file) others := by
  induction es with
  | nil => rw [List.nil_append, List.map_nil, String.join_nil, String.empty_append]
  | cons e es ih =>
    obtain ⟨rfl, later⟩ := List.forall_mem_cons.mp of_file
    rw [List.cons_append, textAfter, entryText_same, ih later, List.map_cons, String.join_cons,
      String.append_assoc]

/-- Entries, at least one of them, that are all of one file. -/
structure OfOneFile (g : List Entry) : Prop where
  some : g ≠ []
  alike : ∀ e ∈ g, fileOf? g = .some e.file

section Group
variable {g : List Entry} {previous : Option String} (ofOneFile : OfOneFile g)
include ofOneFile

/-- A group of another file than before has one heading, before all of its entries. -/
theorem textAfter_group (new : previous ≠ fileOf? g) (others : List Entry) :
    textAfter previous (g ++ others) =
      gap previous ++ groupText g ++ textAfter (fileOf? g) others := by
  obtain ⟨some, alike⟩ := ofOneFile
  cases g with
  | nil => contradiction
  | cons e es =>
    have of_file : ∀ e' ∈ es, e'.file = e.file := fun e' member =>
      (Option.some.inj (alike e' (.tail e member))).symm
    have first : fileOf? (e :: es) = .some e.file := rfl
    rw [first] at new ⊢
    rw [List.cons_append, textAfter, entryText_new new, textAfter_same of_file]
    simp only [groupText, List.map_cons, String.join_cons, String.append_assoc]

/-- A group of the same file as before has no heading. -/
theorem textAfter_again (others : List Entry) :
    textAfter (fileOf? g) (g ++ others) =
      String.join (g.map bodyText) ++ textAfter (fileOf? g) others := by
  obtain ⟨e, es, rfl⟩ := List.exists_cons_of_ne_nil ofOneFile.some
  apply textAfter_same
  intro e' member
  exact (Option.some.inj (ofOneFile.alike e' member)).symm

theorem length_bodies_lt : (String.join (g.map bodyText)).length < (groupText g).length := by
  obtain ⟨e, es, rfl⟩ := List.exists_cons_of_ne_nil ofOneFile.some
  have some : 0 < (" (" : String).length := by decide
  simp only [groupText, String.length_append]
  omega

end Group

section Groups
variable {gs : List (List Entry)} (ofOneFile : ∀ g ∈ gs, OfOneFile g)
include ofOneFile

theorem length_textAfter_le (previous : Option String) :
    (textAfter previous gs.flatten).length ≤ (groupsText previous gs).length := by
  induction gs generalizing previous with
  | nil => exact Nat.le_refl _
  | cons g gs ih =>
    obtain ⟨first, later⟩ := List.forall_mem_cons.mp ofOneFile
    have rest := ih later (fileOf? g)
    rw [List.flatten_cons, groupsText]
    by_cases again : previous = fileOf? g
    · have shorter := length_bodies_lt first
      rw [again, textAfter_again first]
      simp only [String.length_append]
      omega
    · rw [textAfter_group first again]
      simp only [String.length_append]
      omega

/-- Groups have a heading each just if no two in a row are of one file: headings that are left out make
the text shorter. -/
theorem textAfter_eq_iff (previous : Option String) :
    textAfter previous gs.flatten = groupsText previous gs ↔
      (previous :: gs.map fileOf?).IsChain (· ≠ ·) := by
  induction gs generalizing previous with
  | nil => simp [textAfter, groupsText]
  | cons g gs ih =>
    obtain ⟨first, later⟩ := List.forall_mem_cons.mp ofOneFile
    rw [List.flatten_cons, groupsText, List.map_cons, List.isChain_cons_cons]
    by_cases again : previous = fileOf? g
    · refine iff_of_false (fun same => ?_) fun both => both.1 again
      have shorter := length_bodies_lt first
      have rest := length_textAfter_le later (fileOf? g)
      rw [again, textAfter_again first] at same
      have lengths := congrArg String.length same
      simp only [String.length_append] at lengths
      omega
    · rw [textAfter_group first again, String.append_right_inj, ih later, and_iff_right again]

theorem groupsText_eq (some : gs ≠ []) (previous : Option String) :
    groupsText previous gs = gap previous ++ "\n".intercalate (gs.map groupText) := by
  induction gs generalizing previous with
  | nil => contradiction
  | cons g gs ih =>
    obtain ⟨first, later⟩ := List.forall_mem_cons.mp ofOneFile
    rw [groupsText, List.map_cons]
    cases gs with
    | nil => simp [groupsText]
    | cons h hs =>
      obtain ⟨e, es, rfl⟩ := List.exists_cons_of_ne_nil first.some
      rw [ih later (List.cons_ne_nil h hs), List.map_cons, String.intercalate_cons_cons]
      simp [gap, fileOf?, String.append_assoc]

/-- The text has a heading for each of some groups just if no two in a row are of one file. -/
theorem text_flatten_eq_iff :
    (Report.mk gs.flatten).text = "\n".intercalate (gs.map groupText) ↔
      (gs.map fileOf?).IsChain (· ≠ ·) := by
  cases gs with
  | nil => simp [text, textAfter]
  | cons g gs =>
    have first : none ≠ fileOf? g := by
      obtain ⟨e, es, rfl⟩ := List.exists_cons_of_ne_nil (ofOneFile g List.mem_cons_self).some
      simp [fileOf?]
    have own := groupsText_eq ofOneFile (List.cons_ne_nil g gs) none
    rw [gap, Option.isSome_none, if_neg Bool.false_ne_true, String.empty_append] at own
    rw [text, ← own, textAfter_eq_iff ofOneFile, List.map_cons, List.isChain_cons_cons,
      and_iff_right first]

end Groups

/-- The entries of a report in runs, as long as can be, of entries with one file. -/
def runs (r : Report) : List (List Entry) := r.entries.splitBy fun e e' => e.file == e'.file

theorem ofOneFile_of_mem_runs {r : Report} (member : g ∈ r.runs) : OfOneFile g where
  some := List.ne_nil_of_mem_splitBy member
  alike := by
    have chain := (List.isChain_of_mem_splitBy member).imp fun _ _ => beq_iff_eq.mp
    have same : (g.map (·.file)).Pairwise (· = ·) := ((List.isChain_map _).mpr chain).pairwise
    cases g with
    | nil => simp
    | cons e es =>
      obtain ⟨first, -⟩ := List.pairwise_cons.mp same
      refine List.forall_mem_cons.mpr ⟨rfl, fun e' later => ?_⟩
      exact congrArg some (first e'.file (List.mem_map_of_mem later))

theorem runs_isChain (r : Report) : (r.runs.map fileOf?).IsChain (· ≠ ·) := by
  rw [List.isChain_map]
  apply (List.isChain_getLast_head_splitBy _ r.entries).imp_of_mem_imp
  rintro g g' member member' ⟨some, some', differ⟩ same
  have last := (ofOneFile_of_mem_runs member).alike _ (List.getLast_mem some)
  have first := (ofOneFile_of_mem_runs member').alike _ (List.head_mem some')
  rw [last, first, Option.some.injEq] at same
  exact beq_eq_false_iff_ne.mp differ same

/-- The text has one heading for each run, with an empty line between two of them. -/
theorem text_eq_runs (r : Report) : r.text = "\n".intercalate (r.runs.map groupText) := by
  have whole : Report.mk r.runs.flatten = r := by rw [runs, List.flatten_splitBy]
  have each := (text_flatten_eq_iff fun g => ofOneFile_of_mem_runs).mpr r.runs_isChain
  rwa [whole] at each

end DocAnswers.Report
