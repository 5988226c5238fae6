import DocAnswers.Proofs.Path.Spelling

/-! Another extension for a path. The last name of the path is its stem, a dot and the extension, and
only what follows the stem is replaced. -/
namespace DocAnswers.Path

theorem splitName_append {stem extension : List UInt8} (some : stem ≠ []) (last : dot ∉ extension) :
    splitName (stem ++ dot :: extension) = (stem, .some extension) := by
  obtain ⟨c, before, backwards⟩ := List.exists_cons_of_ne_nil (List.reverse_ne_nil_iff.mpr some)
  have undotted : ∀ d ∈ extension.reverse, decide (d ≠ dot) = true := fun d member =>
    decide_eq_true fun is => last (is ▸ List.mem_reverse.mp member)
  have reversed : (stem ++ dot :: extension).reverse = extension.reverse ++ dot :: c :: before := by
    simp [backwards]
  have stemmed : (c :: before).reverse = stem := by rw [← backwards, List.reverse_reverse]
  simp only [splitName, reversed, List.dropWhile_append_of_pos undotted,
    List.takeWhile_append_of_pos undotted]
  simpa using stemmed

theorem eq_of_splitName {n stem extension : List UInt8}
    (splits : splitName n = (stem, some extension)) :
    n = stem ++ dot :: extension ∧ stem ≠ [] ∧ dot ∉ extension := by
  have whole := List.takeWhile_append_dropWhile (p := fun c => decide (c ≠ dot)) (l := n.reverse)
  simp only [splitName] at splits
  split at splits
  · simp at splits
  · simp at splits
  · rename_i mark before more found
    obtain ⟨rfl, rest⟩ := Prod.mk.inj splits
    obtain rfl := Option.some.inj rest
    have isDot : mark = dot := by
      have first := List.head?_dropWhile_not (fun c => decide (c ≠ dot)) n.reverse
      rw [found] at first
      simpa using first
    refine ⟨?_, ?_, ?_⟩
    · rw [found, isDot] at whole
      simpa using (congrArg List.reverse whole).symm
    · simpa using more
    · intro member
      have undotted := List.all_eq_true.mp List.all_takeWhile _ (List.mem_reverse.mp member)
      simp at undotted

/-- A path with an extension ends in a stem, a dot and the extension. -/
theorem exists_stem {p : Path} (extended : p.extension? = some e) :
    ∃ front stem junk, p.bytes = front ++ (stem ++ dot :: e) ++ junk.reverse ∧
      IsFront front ∧ stem ≠ [] ∧ IsName (stem ++ dot :: e) ∧ Trailing junk ∧ dot ∉ e := by
  obtain ⟨n, named, cut⟩ := Option.bind_eq_some_iff.mp extended
  obtain ⟨front, junk, spelled, isFront, isName, trailing⟩ := exists_spelling named
  obtain ⟨is, some, last⟩ := eq_of_splitName (Prod.ext rfl cut)
  rw [is] at spelled isName
  exact ⟨front, _, junk, spelled, isFront, some, isName, trailing, last⟩

theorem extension?_spelled {p : Path} {front stem extension junk : List UInt8}
    (spelled : p.bytes = front ++ (stem ++ dot :: extension) ++ junk.reverse)
    (isFront : IsFront front) (some : stem ≠ []) (isName : IsName (stem ++ dot :: extension))
    (trailing : Trailing junk) (last : dot ∉ extension) :
    p.extension? = .some extension := by
  have ends := (components_of_bytes spelled).trans (components_spelled isFront isName trailing)
  simp only [extension?, fileName?_of_components ends, Option.bind_some, splitName_append some last]

theorem getLast?_segments_append_slash (front : List UInt8) {n : List UInt8} (single : slash ∉ n) :
    (segments (front ++ slash :: n)).getLast? = some n := by
  rw [segments_append_slash, segments_of_not_mem single, List.getLast?_concat]

theorem getLast?_segments {front n : List UInt8} (isFront : IsFront front) (single : slash ∉ n) :
    (segments (front ++ n)).getLast? = some n := by
  rcases isFront with rfl | ⟨folder, rfl⟩
  · rw [List.nil_append, segments_of_not_mem single, List.getLast?_singleton]
  · rw [List.append_assoc]
    exact getLast?_segments_append_slash folder single

/-- A path has an extension if its last segment is something, a dot and the extension. Slashes and `.`
segments at the end do not count. -/
theorem extension?_eq_some_iff (p : Path) {e : List UInt8} (nonempty : e ≠ []) :
    p.extension? = some e ↔ dot ∉ e ∧ ∃ stem, stem ≠ [] ∧
      (segments (toNameEnd p.bytes)).getLast? = some (stem ++ dot :: e) := by
  constructor
  · intro extended
    obtain ⟨front, stem, junk, spelled, isFront, some, isName, trailing, last⟩ :=
      exists_stem extended
    refine ⟨last, stem, some, ?_⟩
    rw [spelled, toNameEnd_spelled front isName trailing]
    exact getLast?_segments isFront isName.no_slash
  · rintro ⟨last, stem, some, ends⟩
    obtain ⟨junk, reversed, trailing⟩ := exists_trailing p.bytes.reverse
    obtain ⟨front, segment, core, isFront, single⟩ := exists_front (toNameEnd p.bytes)
    rw [core, getLast?_segments isFront single] at ends
    obtain rfl := Option.some.inj ends
    have spelled : p.bytes = front ++ (stem ++ dot :: e) ++ junk.reverse := by
      rw [← core, toNameEnd, ← List.reverse_append, ← reversed, List.reverse_reverse]
    have isName : IsName (stem ++ dot :: e) := by
      have long : 1 ≤ stem.length ∧ 1 ≤ e.length :=
        ⟨List.length_pos_iff.mpr some, List.length_pos_iff.mpr nonempty⟩
      refine ⟨by simp, single, fun is => ?_, fun is => ?_⟩
      all_goals
        have length := congrArg List.length is
        simp only [List.length_append, List.length_cons, List.length_nil] at length
        omega
    rw [extension?_spelled spelled isFront some isName trailing last]

/-- What stands for an extension at the end of a name. -/
def suffix (extension : List UInt8) : List UInt8 :=
  if extension.isEmpty then [] else dot :: extension

theorem setExtension_spelled {front n junk : List UInt8} (isFront : IsFront front)
    (isName : IsName n) (trailing : Trailing junk) (extension : List UInt8) :
    setExtension (front ++ n ++ junk.reverse) extension =
      front ++ (splitName n).1 ++ suffix extension := by
  have named := fileName?_of_components (components_spelled isFront isName trailing)
  simp only [setExtension, named, toNameEnd_spelled front isName trailing, List.length_append,
    Nat.add_sub_cancel, List.take_left', suffix]

/-- A path that ends in `..` has no extension to set. -/
theorem setExtension_up {front : List UInt8} (isFront : IsFront front) (extension : List UInt8) :
    setExtension (front ++ [dot, dot]) extension = front ++ [dot, dot] := by
  have unnamed : fileName? ⟨front ++ [dot, dot]⟩ = none := by
    simp only [fileName?, components_append_up isFront, List.getLast?_concat]
  simp only [setExtension, unnamed]

section OneByte
variable {p : Path} {front stem junk : List UInt8} {x : UInt8}

theorem dropExtension_spelled (spelled : p.bytes = front ++ (stem ++ [dot, x]) ++ junk.reverse)
    (extended : p.extension? = some [x]) :
    p.dropExtension = if junk = [] then front ++ stem ++ [dot]
      else front ++ (stem ++ [dot, x]) ++ junk.tail.reverse := by
  simp only [dropExtension, extended, spelled, List.length_singleton,
    ← List.dropLast_eq_take]
  cases junk with
  | nil => simp [← List.append_assoc]
  | cons c junk => simp [← List.append_assoc]

/-- An extension of one byte is replaced. What is left of a name such as `..c`, where only the
folder above is named without its extension, stays without one. -/
theorem withExtension_spelled
    (spelled : p.bytes = front ++ (stem ++ [dot, x]) ++ junk.reverse)
    (extended : p.extension? = some [x]) (isFront : IsFront front)
    (some : stem ≠ []) (isName : IsName (stem ++ [dot, x])) (trailing : Trailing junk)
    (undotted : x ≠ dot) (extension : List UInt8) :
    (p.withExtension extension).bytes =
      if stem = [dot] ∧ junk = [] then front ++ [dot, dot]
      else front ++ stem ++ suffix extension := by
  rw [withExtension, dropExtension_spelled spelled extended]
  have splits : splitName (stem ++ [dot, x]) = (stem, .some [x]) :=
    splitName_append some (by simpa using undotted.symm)
  by_cases bare : junk = []
  · rw [if_pos bare]
    by_cases up : stem = [dot]
    · rw [if_pos ⟨up, bare⟩, up, List.append_assoc]
      exact setExtension_up isFront _
    · have single : slash ∉ stem ++ [dot] := fun inside =>
        isName.no_slash (List.mem_append_left _ (by simpa [show slash ≠ dot by decide] using inside))
      have noUp : stem ++ [dot] ≠ [dot] ++ [dot] := fun is => up (List.append_cancel_right is)
      have isName' : IsName (stem ++ [dot]) := ⟨by simp, single, by simpa using some, noUp⟩
      have splits' : splitName (stem ++ [dot]) = (stem, .some []) := splitName_append some (by simp)
      rw [if_neg fun both => up both.1]
      have set := setExtension_spelled isFront isName' Trailing.nothing extension
      simpa [splits'] using set
  · rw [if_neg bare, if_neg fun both => bare both.2,
      setExtension_spelled isFront isName trailing.tail, splits]

end OneByte
end DocAnswers.Path
