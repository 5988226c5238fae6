import DocAnswers.Comment.Scan

/-! What a scan finds, told block by block and without its state. The signature lines of a source
cut it into blocks, one in front of each of them. A block speaks for its own signature only: its
comments are the documentation, and a marker in it takes that one occurrence out. -/
namespace DocAnswers.Comment
open Text

namespace Convention
variable (conv : Convention)

/-- Lines that start with the mark are comments, whatever else they look like. -/
def isComment (line : String) : Bool := conv.mark.toList.isPrefixOf line.toList

def isSignatureLine (line : String) : Bool := !conv.isComment line && isSignature line.toList

/-- What a comment line says. -/
def body (line : String) : List Char := trim (line.toList.drop conv.mark.toList.length)

/-- What the comments among some lines say. -/
def bodies (lines : List String) : List (List Char) := (lines.filter conv.isComment).map conv.body

end Convention

/-- A signature line behind its block: the lines since the signature line before it, or since the
start. -/
structure Occurrence where
  block : List String
  signature : String
deriving DecidableEq, Repr

namespace Occurrence

def lines (o : Occurrence) : List String := o.block ++ [o.signature]

def isReviewed (conv : Convention) (o : Occurrence) : Bool := o.block.contains conv.reviewedLine

/-- The bodies of the comments in the block with single spaces between them. -/
def doc (conv : Convention) (o : Occurrence) : String :=
  String.ofList ([' '].intercalate (conv.bodies o.block))

end Occurrence

/-- The lines of a source are cut at its signature lines, with `rest` behind the last of them. -/
structure Blocks (conv : Convention) (lines : List String) (os : List Occurrence)
    (rest : List String) : Prop where
  lines_eq : lines = os.flatMap Occurrence.lines ++ rest
  signature : ∀ o ∈ os, conv.isSignatureLine o.signature = true
  block : ∀ o ∈ os, ∀ line ∈ o.block, conv.isSignatureLine line = false
  trailing : ∀ line ∈ rest, conv.isSignatureLine line = false

def unreviewed (conv : Convention) (os : List Occurrence) : List Occurrence :=
  os.filter fun o => !o.isReviewed conv

/-- What is to be recorded of some occurrences: every signature with an unreviewed one, once and at
the place of the first of them, with the documentation of the last of them. -/
structure Records (conv : Convention) (os : List Occurrence) (ps : Procedures) : Prop where
  once : (ps.map (·.signature)).Nodup
  signatures : ps.map (·.signature) = ((unreviewed conv os).map (·.signature)).eraseDups
  docs : ∀ p ∈ ps, ∃ o,
    ((unreviewed conv os).filter (·.signature = p.signature)).getLast? = some o ∧
      p.doc = o.doc conv

variable {conv : Convention} {lines rest : List String} {os : List Occurrence}

private theorem eraseDups_concat (as : List String) (a : String) :
    (as ++ [a]).eraseDups = if a ∈ as then as.eraseDups else as.eraseDups ++ [a] := by
  rw [List.eraseDups_append]
  by_cases known : a ∈ as <;> simp [List.removeAll, known, List.eraseDups_cons]

namespace Records

theorem append_reviewed (records : Records conv os ps) (o : Occurrence)
    (marked : o.isReviewed conv = true) : Records conv (os ++ [o]) ps := by
  have same : unreviewed conv (os ++ [o]) = unreviewed conv os := by
    simp [unreviewed, List.filter_append, marked]
  exact ⟨records.once, same ▸ records.signatures, same ▸ records.docs⟩

theorem append_unreviewed (records : Records conv os ps) (o : Occurrence)
    (unmarked : o.isReviewed conv = false) :
    Records conv (os ++ [o]) (ps.insert ⟨o.signature, o.doc conv⟩) := by
  have more : unreviewed conv (os ++ [o]) = unreviewed conv os ++ [o] := by
    simp [unreviewed, List.filter_append, unmarked]
  refine ⟨Procedures.nodup_insert records.once, ?_, ?_⟩
  · rw [more, List.map_append, List.map_singleton, eraseDups_concat, Procedures.signatures_insert,
      records.signatures]
    simp only [List.mem_eraseDups]
  · intro p member
    rw [more, List.filter_append]
    obtain rfl | ⟨old, other⟩ := (Procedures.mem_insert records.once).mp member
    · exact ⟨o, by simp, rfl⟩
    · obtain ⟨last, isLast, same⟩ := records.docs p old
      refine ⟨last, ?_, same⟩
      simpa [Ne.symm other] using isLast

private theorem eq_of_signatures {ps qs : Procedures}
    (same : ps.map (·.signature) = qs.map (·.signature))
    (agree : ∀ p ∈ ps, ∀ q ∈ qs, p.signature = q.signature → p.doc = q.doc) : ps = qs := by
  induction ps generalizing qs with
  | nil => exact (List.map_eq_nil_iff.mp same.symm).symm
  | cons p ps ih =>
    cases qs with
    | nil => simp at same
    | cons q qs =>
      obtain ⟨signature, rest⟩ := List.cons.inj same
      have doc := agree p List.mem_cons_self q List.mem_cons_self signature
      have tail := ih rest fun p hp q hq => agree p (.tail _ hp) q (.tail _ hq)
      cases p
      cases q
      simp_all

/-- The occurrences leave no choice. -/
theorem unique (left : Records conv os ps) (right : Records conv os qs) : ps = qs := by
  apply eq_of_signatures (left.signatures.trans right.signatures.symm)
  intro p hp q hq signature
  obtain ⟨o, last, hdoc⟩ := left.docs p hp
  obtain ⟨o', last', hdoc'⟩ := right.docs q hq
  rw [signature, last'] at last
  cases last
  exact hdoc.trans hdoc'.symm

end Records

namespace Blocks

theorem append_signature (cut : Blocks conv lines os rest) (line : String)
    (signs : conv.isSignatureLine line = true) :
    Blocks conv (lines ++ [line]) (os ++ [⟨rest, line⟩]) [] where
  lines_eq := by simp [cut.lines_eq, Occurrence.lines]
  signature o member := by
    rcases List.mem_append.mp member with old | new
    · exact cut.signature o old
    · rw [List.mem_singleton.mp new]
      exact signs
  block o member := by
    rcases List.mem_append.mp member with old | new
    · exact cut.block o old
    · rw [List.mem_singleton.mp new]
      exact cut.trailing
  trailing _ member := absurd member List.not_mem_nil

theorem append_other (cut : Blocks conv lines os rest) (line : String)
    (other : conv.isSignatureLine line = false) :
    Blocks conv (lines ++ [line]) os (rest ++ [line]) where
  lines_eq := by simp [cut.lines_eq]
  signature := cut.signature
  block := cut.block
  trailing l member := by
    rcases List.mem_append.mp member with old | new
    · exact cut.trailing l old
    · rw [List.mem_singleton.mp new]
      exact other

theorem no_signature (cut : Blocks conv lines [] rest) :
    rest = lines ∧ ∀ line ∈ lines, conv.isSignatureLine line = false := by
  have whole : lines = rest := cut.lines_eq
  exact ⟨whole.symm, whole ▸ cut.trailing⟩

theorem first (cut : Blocks conv lines (o :: os) rest) :
    ∃ after, lines = o.block ++ o.signature :: after ∧ Blocks conv after os rest := by
  refine ⟨os.flatMap Occurrence.lines ++ rest, ?_, rfl, ?_, ?_, cut.trailing⟩
  · simpa [Occurrence.lines] using cut.lines_eq
  · exact fun p member => cut.signature p (.tail _ member)
  · exact fun p member => cut.block p (.tail _ member)

/-- What stands before a signature line, with no other one in it, is fixed by the lines. -/
private theorem split_unique {s t : String} {b c x y : List String}
    (hs : conv.isSignatureLine s = true) (ht : conv.isSignatureLine t = true)
    (hb : ∀ line ∈ b, conv.isSignatureLine line = false)
    (hc : ∀ line ∈ c, conv.isSignatureLine line = false) (same : b ++ s :: x = c ++ t :: y) :
    b = c ∧ s = t ∧ x = y := by
  induction b generalizing c with
  | nil =>
    cases c with
    | nil => simpa using same
    | cons line c =>
      obtain ⟨rfl, -⟩ := List.cons.inj same
      simp [hs] at hc
  | cons line b ih =>
    cases c with
    | nil =>
      obtain ⟨rfl, -⟩ := List.cons.inj same
      simp [ht] at hb
    | cons line' c =>
      obtain ⟨rfl, tails⟩ := List.cons.inj same
      obtain ⟨rfl, rfl, rfl⟩ := ih (fun l h => hb l (.tail _ h)) (fun l h => hc l (.tail _ h)) tails
      exact ⟨rfl, rfl, rfl⟩

/-- There is only one way to cut lines into blocks. -/
theorem unique (left : Blocks conv lines os rest) (right : Blocks conv lines os' rest') :
    os' = os ∧ rest' = rest := by
  induction os generalizing lines os' with
  | nil =>
    obtain ⟨whole, quiet⟩ := left.no_signature
    cases os' with
    | nil => exact ⟨rfl, right.no_signature.1.trans whole.symm⟩
    | cons o os' =>
      obtain ⟨after, rfl, -⟩ := right.first
      have noise := quiet o.signature (by simp)
      simp [right.signature o List.mem_cons_self] at noise
  | cons o os ih =>
    obtain ⟨after, whole, tail⟩ := left.first
    cases os' with
    | nil =>
      subst whole
      have noise := right.no_signature.2 o.signature (by simp)
      simp [left.signature o List.mem_cons_self] at noise
    | cons o' os' =>
      obtain ⟨after', whole', tail'⟩ := right.first
      obtain ⟨block, signature, rfl⟩ := split_unique (left.signature o List.mem_cons_self)
        (right.signature o' List.mem_cons_self) (left.block o List.mem_cons_self)
        (right.block o' List.mem_cons_self) (whole.symm.trans whole')
      obtain ⟨rfl, rfl⟩ := ih tail tail'
      cases o
      cases o'
      exact ⟨by simp_all, rfl⟩

end Blocks

/-- The state of a scan, in terms of what has been read. -/
structure Scan.Follows (conv : Convention) (s : Scan) (os : List Occurrence) (rest : List String) :
    Prop where
  found : Records conv os s.found
  comments : s.comments = conv.bodies rest
  reviewed : s.reviewed = rest.contains conv.reviewedLine

namespace Scan

/-- Marker lines are comments. -/
theorem isComment_reviewedLine (conv : Convention) : conv.isComment conv.reviewedLine = true := by
  simp [Convention.isComment, Convention.reviewedLine, String.toList_append]

theorem read_comment (s : Scan) (line : String) (comment : conv.isComment line = true) :
    s.read conv line =
      { s with
        comments := s.comments ++ [conv.body line]
        reviewed := s.reviewed || decide (conv.reviewedLine = line) } := by
  have taken : after? conv.mark.toList line.toList =
      some (line.toList.drop conv.mark.toList.length) := if_pos comment
  by_cases marker : line = conv.reviewedLine
  · subst marker
    simp [read, taken, Convention.body]
  · simp [read, taken, Convention.body, marker, Ne.symm marker]

theorem read_noComment (s : Scan) (line : String) (other : conv.isComment line = false) :
    s.read conv line = if isSignature line.toList then s.signature line else s := by
  have kept : after? conv.mark.toList line.toList = none := if_neg (Bool.eq_false_iff.mp other)
  have unmarked : line ≠ conv.reviewedLine := by
    rintro rfl
    simp [isComment_reviewedLine] at other
  simp [read, kept, unmarked]

theorem read_signatureLine (s : Scan) (line : String) (signs : conv.isSignatureLine line = true) :
    s.read conv line = s.signature line := by
  simp only [Convention.isSignatureLine, Bool.and_eq_true, Bool.not_eq_true'] at signs
  rw [read_noComment s line signs.1, if_pos signs.2]

theorem read_noise (s : Scan) (line : String) (other : conv.isComment line = false)
    (noise : conv.isSignatureLine line = false) : s.read conv line = s := by
  have unsigned : isSignature line.toList = false := by
    simpa [Convention.isSignatureLine, other] using noise
  rw [read_noComment s line other, unsigned]
  rfl

namespace Follows

theorem read_signature (follows : Follows conv s os rest) (line : String)
    (signs : conv.isSignatureLine line = true) :
    Follows conv (s.read conv line) (os ++ [⟨rest, line⟩]) [] := by
  rw [read_signatureLine s line signs]
  refine ⟨?_, rfl, rfl⟩
  cases marked : rest.contains conv.reviewedLine with
  | true =>
    have skipped : s.reviewed = true := follows.reviewed.trans marked
    simpa only [signature, skipped, if_true] using follows.found.append_reviewed ⟨rest, line⟩ marked
  | false =>
    have kept : s.reviewed = false := follows.reviewed.trans marked
    simpa only [signature, kept, Bool.false_eq_true, if_false, follows.comments,
      join_eq_intercalate, Occurrence.doc] using
      follows.found.append_unreviewed ⟨rest, line⟩ marked

theorem read_other (follows : Follows conv s os rest) (line : String)
    (other : conv.isSignatureLine line = false) :
    Follows conv (s.read conv line) os (rest ++ [line]) := by
  cases comment : conv.isComment line with
  | true =>
    rw [read_comment s line comment]
    refine ⟨follows.found, ?_, ?_⟩
    · simp [follows.comments, Convention.bodies, comment]
    · simp [follows.reviewed]
  | false =>
    have unmarked : line ≠ conv.reviewedLine := by
      rintro rfl
      simp [isComment_reviewedLine] at comment
    rw [read_noise s line comment other]
    refine ⟨follows.found, ?_, ?_⟩
    · simp [follows.comments, Convention.bodies, comment]
    · simp [follows.reviewed, Ne.symm unmarked]

/-- Reading on keeps the state in step with the blocks. -/
theorem foldl_read (follows : Follows conv s os rest) (cut : Blocks conv done os rest)
    (lines : List String) :
    ∃ os' rest', Blocks conv (done ++ lines) os' rest' ∧
      Follows conv (lines.foldl (Scan.read conv) s) os' rest' := by
  -- The blocks grow at their end, so the induction is on the lines that are still to come.
  induction lines generalizing s os rest done with
  | nil => exact ⟨os, rest, by simpa using cut, follows⟩
  | cons line lines ih =>
    rw [← List.singleton_append, ← List.append_assoc]
    cases signs : conv.isSignatureLine line with
    | true => exact ih (follows.read_signature line signs) (cut.append_signature line signs)
    | false => exact ih (follows.read_other line signs) (cut.append_other line signs)

end Follows
end Scan

/-- A scan finds what its blocks record, and nothing else of the source counts: comments behind the
last signature line are in no block. -/
theorem ofLines_blockwise (conv : Convention) (lines : List String) :
    ∃ os rest, Blocks conv lines os rest ∧
      (∀ os' rest', Blocks conv lines os' rest' → os' = os ∧ rest' = rest) ∧
      ∀ ps, Records conv os ps ↔ ps = Procedures.ofLines conv lines := by
  have start : Scan.Follows conv {} [] [] :=
    ⟨⟨List.nodup_nil, rfl, fun _ member => absurd member List.not_mem_nil⟩, rfl, rfl⟩
  have uncut : Blocks conv [] [] [] := ⟨rfl, by simp, by simp, by simp⟩
  obtain ⟨os, rest, cut, follows⟩ := start.foldl_read uncut lines
  refine ⟨os, rest, cut, fun _ _ => cut.unique, fun ps => ⟨?_, ?_⟩⟩
  · exact fun records => records.unique follows.found
  · rintro rfl
    exact follows.found

example : Procedures.ofLines {}
    [" * a", "int f()", " * b", "int f()", " * @pbs: reviewed", "int f()", " * c"] =
    [⟨"int f()", "b"⟩] := by decide +kernel

end DocAnswers.Comment
