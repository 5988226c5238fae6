import DocAnswers.Proofs.Report.JsonReader
import DocAnswers.Report.Basic

/-! Reports read back from their JSON text. -/
namespace DocAnswers
open Json

/-- The text that an object has under a name. -/
def Json.text? (members : List (String × Value)) (name : String) : Option String :=
  match members.lookup name with
  | some (.string text) => some text
  | _ => none

namespace Entry

/-- The object that stands for an entry. -/
def members (e : Entry) : List (String × Value) :=
  [("file", .string e.file), ("language", .string e.language), ("procedure", .string e.procedure),
    ("comment", .string e.comment)] ++ (e.answer.map fun a => ("answer", Value.string a)).toList

/-- The entry that an object stands for. Only the answer may be missing. -/
def ofMembers? (members : List (String × Value)) : Option Entry := do
  let file ← text? members "file"
  let language ← text? members "language"
  let procedure ← text? members "procedure"
  let comment ← text? members "comment"
  match members.lookup "answer" with
  | none => return { file, language, procedure, comment }
  | some (.string answer) => return { file, language, procedure, comment, answer := some answer }
  | some _ => none

def ofValue? : Value → Option Entry
  | .object members => ofMembers? members
  | _ => none

theorem lookup_members (e : Entry) : e.members.lookup "answer" = e.answer.map .string := by
  obtain ⟨file, language, procedure, comment, answer⟩ := e
  cases answer <;> rfl

theorem ofMembers?_members (e : Entry) : ofMembers? e.members = some e := by
  obtain ⟨file, language, procedure, comment, answer⟩ := e
  cases answer <;> rfl

end Entry

namespace Report

/-- The report that a value stands for. -/
def ofValue? : Value → Option Report
  | .object members =>
    match members.lookup "procedures" with
    | some (.array items) => (items.mapM Entry.ofValue?).map Report.mk
    | _ => none
  | _ => none

theorem value_entryJson (e : Entry) : value (entryJson e) = .object e.members := by
  obtain ⟨file, language, procedure, comment, answer⟩ := e
  cases answer <;> rfl

theorem value_toJson (r : Report) : value r.toJson =
    .object [("procedures", .array (r.entries.map fun e => .object e.members))] := by
  have items : values (r.entries.map entryJson) = r.entries.map fun e => .object e.members := by
    rw [values_eq_map, List.map_map]
    apply List.map_congr_left
    intro e _
    exact value_entryJson e
  rw [toJson, value, memberValues, memberValues, value, items]

theorem mapM_ofValue? (es : List Entry) :
    (es.map fun e => Value.object e.members).mapM Entry.ofValue? = some es := by
  induction es with
  | nil => rfl
  | cons e es ih =>
    have first : Entry.ofValue? (.object e.members) = some e := e.ofMembers?_members
    rw [List.map_cons, List.mapM_cons, first, ih]
    rfl

theorem ofValue?_toJson (r : Report) : ofValue? (value r.toJson) = some r := by
  rw [value_toJson]
  change (List.mapM Entry.ofValue? (r.entries.map _)).map Report.mk = some r
  rw [mapM_ofValue?]
  rfl

/-- The JSON text of a report can be read, and what is read is an object for each entry, in order, in
which an answer stands exactly if there is one. The report can be told from it, so different reports
have different texts. -/
theorem json_reads_back (r s : Report) :
    Json.read? r.json =
      some (.object [("procedures", .array (r.entries.map fun e => .object e.members))]) ∧
    (∀ e : Entry, e.members.lookup "answer" = e.answer.map Value.string) ∧
    (Json.read? r.json).bind ofValue? = some r ∧
    (r.json = s.json ↔ r = s) := by
  have back (t : Report) : (Json.read? t.json).bind ofValue? = some t := by
    rw [json, read?_pretty, Option.bind_some, ofValue?_toJson]
  refine ⟨?_, Entry.lookup_members, back r, ?_⟩
  · rw [json, read?_pretty, value_toJson]
  · constructor
    · intro same
      have := back r
      rw [same, back s] at this
      exact (Option.some.inj this).symm
    · rintro rfl
      rfl

end Report
end DocAnswers
