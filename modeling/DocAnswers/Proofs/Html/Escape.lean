import DocAnswers.Html.Token.Scan

/-! Text written so that it may stand between tags and inside quoted values: the four characters that
mean something there are given by name. Reading such text gives back what was written. -/
namespace DocAnswers.Html.CharRef

/-- The names of the characters that mean something in markup, from behind the ampersand. -/
def markup : List (Char × List Char) :=
  [('&', ['a', 'm', 'p', ';']), ('<', ['l', 't', ';']), ('>', ['g', 't', ';']),
   ('"', ['q', 'u', 'o', 't', ';'])]

def escapeChar (c : Char) : List Char :=
  match markup.lookup c with
  | some name => '&' :: name
  | none => [c]

def escape (cs : List Char) : List Char := cs.flatMap escapeChar

section Longest
variable {entry : String × List Nat} {names : List (String × List Nat)}

/-- Whether no name of a list goes on beyond the end of some name. -/
def isFinal (entry : String × List Nat) (names : List (String × List Nat)) : Bool :=
  names.all fun e => e == entry || !entry.1.toList.isPrefixOf e.1.toList

theorem length_lt_of_isFinal (final : isFinal entry names) (member : e ∈ names) (differs : e ≠ entry)
    (starts : e.1.toList.isPrefixOf (entry.1.toList ++ rest)) : e.1.length < entry.1.length := by
  have whole := List.all_eq_true.mp final e member
  simp only [Bool.or_eq_true, beq_iff_eq, differs, false_or, Bool.not_eq_true'] at whole
  apply Nat.lt_of_not_le
  intro long
  have prefixes := List.prefix_of_prefix_length_le (List.prefix_append entry.1.toList rest)
    (List.isPrefixOf_iff_prefix.mp starts) (by simpa only [String.length_toList] using long)
  rw [List.isPrefixOf_iff_prefix.mpr prefixes] at whole
  contradiction

theorem longest_le_of_isFinal (final : isFinal entry names) (rest : List Char) :
    ∀ best ∈ longest (entry.1.toList ++ rest) names,
      best = (entry.1.toList, entry.2) ∨ best.1.length < entry.1.length := by
  induction names with
  | nil => simp [longest]
  | cons e names ih =>
    have known := ih (List.all_eq_true.mpr fun e' member =>
      List.all_eq_true.mp final e' (.tail _ member))
    have first (starts : e.1.toList.isPrefixOf (entry.1.toList ++ rest)) :
        (e.1.toList, e.2) = (entry.1.toList, entry.2) ∨ e.1.toList.length < entry.1.length := by
      by_cases same : e = entry
      · exact .inl (by rw [same])
      · right
        rw [String.length_toList]
        exact length_lt_of_isFinal final List.mem_cons_self same starts
    intro best found
    rw [longest] at found
    split at found
    · rename_i best' found'
      split at found
      · rename_i longer
        obtain rfl := Option.some.inj found
        exact first (Bool.and_eq_true_iff.mp longer).2
      · obtain rfl := Option.some.inj found
        exact known _ found'
    · split at found
      · rename_i starts
        obtain rfl := Option.some.inj found
        exact first starts
      · contradiction

/-- A listed name beyond which no other one goes is the longest wherever it stands. -/
theorem longest_of_isFinal (final : isFinal entry names) (listed : entry ∈ names) (rest : List Char) :
    longest (entry.1.toList ++ rest) names = some (entry.1.toList, entry.2) := by
  induction names with
  | nil => contradiction
  | cons e names ih =>
    have later : isFinal entry names := List.all_eq_true.mpr fun e' member =>
      List.all_eq_true.mp final e' (.tail _ member)
    have starts : entry.1.toList.isPrefixOf (entry.1.toList ++ rest) = true :=
      List.isPrefixOf_iff_prefix.mpr (List.prefix_append _ _)
    rw [longest]
    by_cases same : e = entry
    · subst same
      cases found : longest (e.1.toList ++ rest) names with
      | none => simp [starts]
      | some best =>
        rcases longest_le_of_isFinal later rest best found with rfl | shorter
        · simp
        · simp [shorter, starts]
    · obtain rest' | listed := List.mem_cons.mp listed
      · exact absurd rest'.symm same
      · rw [ih later listed]
        have shorter (starts : e.1.toList.isPrefixOf (entry.1.toList ++ rest)) :=
          length_lt_of_isFinal final List.mem_cons_self same starts
        simp only [String.length_toList]
        rw [if_neg]
        intro longer
        have := shorter (Bool.and_eq_true_iff.mp longer).2
        have := of_decide_eq_true (Bool.and_eq_true_iff.mp longer).1
        omega

end Longest

/-- A listed name that ends in a semicolon is read wherever it stands. -/
theorem read?_of_isFinal (final : isFinal entry (namesFrom first)) (listed : entry ∈ namesFrom first)
    (spelled : entry.1.toList = first :: tail) (letter : first ≠ '#')
    (closed : (first :: tail).getLast? = some ';') (inAttribute : Bool) (rest : List Char) :
    read? inAttribute (first :: tail ++ rest) =
      some (entry.2.map Char.ofNat, (first :: tail).length) := by
  have found := longest_of_isFinal final listed rest
  rw [spelled] at found
  rw [List.cons_append] at found ⊢
  rw [read?]
  · simp only [found]
    rw [if_neg]
    simp [blocked, closed]
  all_goals simp [letter]

/-- What `read?_of_isFinal` asks of the name of a character. -/
def isReadable (entry : Char × List Char) : Bool :=
  match entry.2 with
  | [] => false
  | first :: tail =>
    let listed := (String.ofList (first :: tail), [entry.1.toNat])
    isFinal listed (namesFrom first) && (namesFrom first).contains listed && first != '#' &&
      (first :: tail).getLast? == some ';'

/-- The names of the characters of markup are read as these characters, whatever comes behind them. -/
theorem read?_markup (member : (c, name) ∈ markup) (inAttribute : Bool) (rest : List Char) :
    read? inAttribute (name ++ rest) = some ([c], name.length) := by
  have readable : ∀ entry ∈ markup, isReadable entry = true := by decide +kernel
  have readable := readable _ member
  unfold isReadable at readable
  split at readable
  · contradiction
  · rename_i first tail is
    obtain rfl : name = first :: tail := is
    simp only [Bool.and_eq_true, List.contains_iff_mem, bne_iff_ne, beq_iff_eq] at readable
    obtain ⟨⟨⟨final, listed⟩, letter⟩, closed⟩ := readable
    rw [read?_of_isFinal final listed String.toList_ofList letter closed]
    simp [Char.ofNat_toNat]

theorem escapeChar_eq (c : Char) :
    (∃ name, (c, name) ∈ markup ∧ escapeChar c = '&' :: name) ∨
      escapeChar c = [c] ∧ c ≠ '&' ∧ c ≠ '<' ∧ c ≠ '>' ∧ c ≠ '"' := by
  by_cases amp : c = '&'
  · subst amp; exact .inl ⟨_, .head _, rfl⟩
  by_cases lt : c = '<'
  · subst lt; exact .inl ⟨_, .tail _ (.head _), rfl⟩
  by_cases gt : c = '>'
  · subst gt; exact .inl ⟨_, .tail _ (.tail _ (.head _)), rfl⟩
  by_cases quote : c = '"'
  · subst quote; exact .inl ⟨_, .tail _ (.tail _ (.tail _ (.head _))), rfl⟩
  refine .inr ⟨?_, amp, lt, gt, quote⟩
  simp only [escapeChar, markup, List.lookup_cons, List.lookup_nil, beq_false_of_ne amp,
    beq_false_of_ne lt, beq_false_of_ne gt, beq_false_of_ne quote]

theorem decode_escapeChar (inAttribute : Bool) (c : Char) (rest : List Char) :
    decode inAttribute (escapeChar c ++ rest) = c :: decode inAttribute rest := by
  rcases escapeChar_eq c with ⟨name, member, written⟩ | ⟨written, ordinary, -⟩
  · rw [written, List.cons_append, decode, read?_markup member]
    simp
  · rw [written, List.singleton_append, decode]
    exact ordinary

/-- Reading escaped text gives the text back. -/
theorem decode_escape (inAttribute : Bool) (cs : List Char) :
    decode inAttribute (escape cs) = cs := by
  induction cs with
  | nil => rw [escape, List.flatMap_nil, decode]
  | cons c cs ih =>
    rw [escape, List.flatMap_cons, decode_escapeChar]
    exact congrArg (c :: ·) ih

/-- The characters of escaped text. -/
theorem of_mem_escape (member : c ∈ escape cs) :
    c ≠ '"' ∧ (c ∈ cs ∨ c ∈ ['&', 'a', 'm', 'p', 'l', 't', 'g', 'q', 'u', 'o', ';']) := by
  obtain ⟨d, among, written⟩ := List.mem_flatMap.mp member
  rcases escapeChar_eq d with ⟨name, listed, is⟩ | ⟨is, -, -, -, quote⟩
  · have names : ∀ entry ∈ markup, ∀ c ∈ '&' :: entry.2,
        c ≠ '"' ∧ c ∈ ['&', 'a', 'm', 'p', 'l', 't', 'g', 'q', 'u', 'o', ';'] := by
      simp [markup]
    rw [is] at written
    obtain ⟨unquoted, letter⟩ := names _ listed c written
    exact ⟨unquoted, .inr letter⟩
  · rw [is] at written
    obtain rfl := List.mem_singleton.mp written
    exact ⟨quote, .inl among⟩

end DocAnswers.Html.CharRef
