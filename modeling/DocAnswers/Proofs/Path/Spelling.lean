import DocAnswers.Path.Extension
import DocAnswers.Proofs.Text.Cut

/-! How the text of a path is made up: the folder that its last name is in, the name, and slashes and
`.` segments after it. The components of the path are those of the folder, then the name. -/
namespace DocAnswers.Path
open Text

theorem segments_ne_nil (cs : List UInt8) : segments cs ≠ [] := cut_ne_nil _ cs

theorem segments_append_slash (front back : List UInt8) :
    segments (front ++ slash :: back) = segments front ++ segments back :=
  cut_append_cons rfl front back

theorem segments_of_not_mem (single : slash ∉ cs) : segments cs = [cs] := by
  apply cut_eq_singleton
  rintro c member
  simpa using fun is : c = slash => single (is ▸ member)

theorem not_mem_of_mem_segments {segment : List UInt8} (member : segment ∈ segments cs) :
    slash ∉ segment :=
  fun inside => by simpa using cut_whole member slash inside

/-- What an entry of a folder may be called. -/
structure IsName (n : List UInt8) : Prop where
  ne_nil : n ≠ []
  no_slash : slash ∉ n
  ne_here : n ≠ [dot]
  ne_up : n ≠ [dot, dot]

theorem IsName.ofSegment? (isName : IsName n) :
    Component.ofSegment? n = some (.name n) := by
  simp [Component.ofSegment?, isName.ne_nil, isName.ne_here, isName.ne_up]

/-- A text that leads to the folder of the name after it. -/
def IsFront (cs : List UInt8) : Prop := cs = [] ∨ ∃ folder, cs = folder ++ [slash]

theorem componentList_concat {segs : List (List UInt8)} (some : segs ≠ []) (segment : List UInt8) :
    componentList (segs ++ [segment]) =
      componentList (segs ++ [[]]) ++ (Component.ofSegment? segment).toList := by
  cases segs with
  | nil => exact absurd rfl some
  | cons first rest =>
    have nothing : Component.ofSegment? [] = none := rfl
    cases kept : Component.ofSegment? segment <;>
      simp [componentList, List.filterMap_append, nothing, kept]

/-- A last segment adds what it stands for to the components of its folder. Only where it has no
folder before it could it be the `.` that counts. -/
theorem components_front_append {front segment : List UInt8} (isFront : IsFront front)
    (single : slash ∉ segment) (other : front ≠ [] ∨ segment ≠ [dot]) :
    components ⟨front ++ segment⟩ =
      components ⟨front⟩ ++ (Component.ofSegment? segment).toList := by
  simp only [components]
  rcases isFront with rfl | ⟨folder, rfl⟩
  · have noHere : segment ≠ [dot] := other.resolve_left (· rfl)
    rw [List.nil_append, segments_of_not_mem single]
    cases segment with
    | nil => rfl
    | cons c cs =>
      show (if (c :: cs) == [dot] then [.here] else (Component.ofSegment? (c :: cs)).toList) ++ [] = _
      rw [if_neg (by simpa using noHere), List.append_nil]
      rfl
  · rw [List.append_assoc, List.singleton_append, segments_append_slash, segments_append_slash,
      segments_of_not_mem single]
    exact componentList_concat (segments_ne_nil folder) segment

theorem components_append_name {front n : List UInt8} (isFront : IsFront front) (isName : IsName n) :
    components ⟨front ++ n⟩ =
      components ⟨front⟩ ++ [.name n] := by
  rw [components_front_append isFront isName.no_slash (.inr isName.ne_here), isName.ofSegment?,
    Option.toList_some]

theorem components_append_up {front : List UInt8} (isFront : IsFront front) :
    components ⟨front ++ [dot, dot]⟩ =
      components ⟨front⟩ ++ [.up] :=
  components_front_append isFront (by decide) (.inr (by decide))

/-- The text by which a path leads to an entry of its folder. -/
theorem join_front (p : Path) (name : List UInt8) :
    ∃ front, (p.join name).bytes = front ++ name ∧ IsFront front ∧
      (front = p.bytes ∨ p.bytes ≠ [] ∧ front = p.bytes ++ [slash]) := by
  unfold join
  split
  · rename_i empty
    have nothing : p.bytes = [] := by simpa using empty
    exact ⟨[], rfl, .inl rfl, .inl nothing.symm⟩
  · rename_i text
    split
    · rename_i ends
      obtain ⟨folder, is⟩ := List.getLast?_eq_some_iff.mp (beq_iff_eq.mp ends)
      exact ⟨p.bytes, rfl, .inr ⟨folder, is⟩, .inl rfl⟩
    · exact ⟨_, by simp, .inr ⟨p.bytes, rfl⟩, .inr ⟨by simpa using text, rfl⟩⟩

/-- Every text is a front and a last segment. -/
theorem exists_front (cs : List UInt8) :
    ∃ front segment, cs = front ++ segment ∧ IsFront front ∧ slash ∉ segment := by
  induction cs with
  | nil => exact ⟨[], [], rfl, .inl rfl, by simp⟩
  | cons c cs ih =>
    obtain ⟨front, segment, rfl, isFront, single⟩ := ih
    rcases isFront with rfl | ⟨folder, rfl⟩
    · by_cases ends : c = slash
      · exact ⟨[slash], segment, by simp [ends], .inr ⟨[], rfl⟩, single⟩
      · exact ⟨[], c :: segment, rfl, .inl rfl, by simp [single, Ne.symm ends]⟩
    · exact ⟨c :: (folder ++ [slash]), segment, rfl, .inr ⟨c :: folder, rfl⟩, single⟩

/-- The reverse of what may follow a name without being part of the path. -/
inductive Trailing : List UInt8 → Prop where
  | nothing : Trailing []
  | slash : Trailing r → Trailing (slash :: r)
  | here : Trailing r → Trailing (dot :: slash :: r)

theorem dropTrailing_ne_slash (r rest : List UInt8) : dropTrailing r ≠ slash :: rest := by
  fun_induction dropTrailing r <;> simp_all

theorem dropTrailing_ne_here (r rest : List UInt8) : dropTrailing r ≠ dot :: slash :: rest := by
  fun_induction dropTrailing r with
  | case1 => simp
  | case2 b r _ ih => exact ih
  | case3 b r kept =>
    rintro ⟨⟩
    exact kept rfl

theorem dropTrailing_eq_self {b : UInt8} (counts : b ≠ slash)
    (names : b = dot → r.head? ≠ some slash) : dropTrailing (b :: r) = b :: r := by
  simp only [dropTrailing, Bool.or_eq_true, Bool.and_eq_true, beq_iff_eq]
  exact if_neg fun drops => drops.elim counts fun both => names both.1 both.2

theorem dropTrailing_slash (r : List UInt8) : dropTrailing (slash :: r) = dropTrailing r := by
  simp [dropTrailing]

theorem dropTrailing_here (r : List UInt8) : dropTrailing (dot :: slash :: r) = dropTrailing r := by
  simp [dropTrailing]

namespace Trailing
variable {junk : List UInt8}

theorem tail (trailing : Trailing junk) : Trailing junk.tail := by
  cases trailing with
  | nothing => exact .nothing
  | slash rest => exact rest
  | here rest => exact rest.slash

theorem dropTrailing_append (trailing : Trailing junk) (r : List UInt8) :
    dropTrailing (junk ++ r) = dropTrailing r := by
  induction trailing with
  | nothing => rfl
  | slash _ ih => exact (dropTrailing_slash _).trans ih
  | here _ ih => exact (dropTrailing_here _).trans ih

end Trailing

theorem exists_trailing (r : List UInt8) : ∃ junk, r = junk ++ dropTrailing r ∧ Trailing junk := by
  induction size : r.length using Nat.strongRecOn generalizing r with
  | ind n ih =>
    subst size
    cases r with
    | nil => exact ⟨[], rfl, .nothing⟩
    | cons b r =>
      by_cases slashed : b = slash
      · obtain ⟨junk, is, trailing⟩ := ih r.length (by simp) r rfl
        refine ⟨slash :: junk, ?_, trailing.slash⟩
        rw [slashed, dropTrailing_slash, List.cons_append, ← is]
      by_cases here : b = dot ∧ r.head? = some slash
      · obtain ⟨rfl, next⟩ := here
        obtain ⟨r, rfl⟩ := List.head?_eq_some_iff.mp next
        obtain ⟨junk, is, trailing⟩ := ih r.length (by simp only [List.length_cons]; omega) r rfl
        refine ⟨dot :: slash :: junk, ?_, trailing.here⟩
        rw [dropTrailing_here, List.cons_append, List.cons_append, ← is]
      · have kept := dropTrailing_eq_self slashed fun isDot next => here ⟨isDot, next⟩
        exact ⟨[], kept.symm, .nothing⟩

theorem components_append_slash {cs : List UInt8} (some : cs ≠ []) :
    components ⟨cs ++ [slash]⟩ = components ⟨cs⟩ := by
  simp only [components, segments_append_slash cs []]
  cases split : segments cs with
  | nil => exact absurd split (segments_ne_nil cs)
  | cons first rest =>
    have nothing : Component.ofSegment? [] = none := rfl
    -- An empty first segment is that of an absolute path, so something follows it.
    have absolute : first = [] → rest ≠ [] := by
      rintro rfl rfl
      cases cs with
      | nil => exact some rfl
      | cons c cs =>
        by_cases ends : c = slash
        · rw [ends] at split
          have two := segments_append_slash [] cs
          rw [List.nil_append, split] at two
          simp [segments, cut, cut_ne_nil] at two
        · cases after : cut (· == slash) cs <;> simp [segments, cut, ends, after] at split
    by_cases empty : first = []
    · simp [componentList, empty, absolute empty, segments, cut, List.filterMap_append, nothing]
    · simp [componentList, empty, segments, cut, List.filterMap_append, nothing]

theorem components_append_trailing {cs junk : List UInt8} (some : cs ≠ []) (trailing : Trailing junk) :
    components ⟨cs ++ junk.reverse⟩ = components ⟨cs⟩ := by
  induction trailing with
  | nothing => simp
  | slash _ ih =>
    rw [List.reverse_cons, ← List.append_assoc, components_append_slash (by simp [some]), ih]
  | @here junk _ ih =>
    have isFront : IsFront (cs ++ junk.reverse ++ [slash]) := .inr ⟨_, rfl⟩
    have nothing : Component.ofSegment? [dot] = none := rfl
    have spelled : cs ++ (dot :: slash :: junk).reverse = cs ++ junk.reverse ++ [slash] ++ [dot] := by
      simp
    rw [spelled, components_front_append isFront (by decide) (.inl (by simp)), nothing,
      Option.toList_none, List.append_nil, components_append_slash (by simp [some]), ih]

theorem components_trailing (trailing : Trailing junk) :
    components ⟨junk.reverse⟩ = [] ∨
      components ⟨junk.reverse⟩ = [.root] := by
  induction trailing with
  | nothing => exact .inl rfl
  | @slash junk rest ih =>
    by_cases none : junk = []
    · exact .inr (by subst none; rfl)
    · rwa [List.reverse_cons, components_append_slash (by simpa using none)]
  | @here junk rest ih =>
    by_cases none : junk = []
    · exact .inr (by subst none; rfl)
    · have some : junk.reverse ≠ [] := by simpa using none
      have more := components_append_trailing some Trailing.nothing.here
      rw [List.reverse_cons, List.reverse_cons, List.append_assoc]
      exact more.symm ▸ ih

theorem components_of_bytes {p : Path} (spelled : p.bytes = cs) :
    p.components = components ⟨cs⟩ := by
  simp only [components, spelled]

@[simp] theorem components_join (p : Path) {name : List UInt8} (isName : IsName name) :
    (p.join name).components = p.components ++ [.name name] := by
  obtain ⟨front, spelled, isFront, is⟩ := join_front p name
  have folder : components ⟨front⟩ = p.components := by
    rcases is with rfl | ⟨some, rfl⟩
    · rfl
    · exact components_append_slash some
  rw [components_of_bytes spelled, components_append_name isFront isName, folder]

theorem fileName?_of_components {p : Path} (ends : p.components = folder ++ [.name n]) :
    p.fileName? = some n := by
  simp [fileName?, ends]

theorem exists_folder {p : Path} (named : p.fileName? = some n) :
    ∃ folder, p.components = folder ++ [.name n] := by
  rw [fileName?] at named
  split at named
  · rename_i last
    obtain rfl := Option.some.inj named
    exact List.getLast?_eq_some_iff.mp last
  · contradiction

/-- A path with a file name is a front, the name and what does not count after it. -/
theorem exists_spelling {p : Path} (named : p.fileName? = some n) :
    ∃ front junk, p.bytes = front ++ n ++ junk.reverse ∧ IsFront front ∧
      IsName n ∧ Trailing junk := by
  obtain ⟨junk, reversed, trailing⟩ := exists_trailing p.bytes.reverse
  obtain ⟨front, segment, core, isFront, single⟩ :=
    exists_front (dropTrailing p.bytes.reverse).reverse
  have spelled : p.bytes = front ++ segment ++ junk.reverse := by
    rw [← core, ← List.reverse_append, ← reversed, List.reverse_reverse]
  have backwards : dropTrailing p.bytes.reverse = segment.reverse ++ front.reverse := by
    rw [← List.reverse_append, ← core, List.reverse_reverse]
  have whole : front ++ segment ≠ [] := by
    intro none
    rw [none, List.nil_append] at spelled
    rcases components_trailing trailing with is | is <;>
      simp [fileName?, components_of_bytes spelled, is] at named
  have counted : p.components = components ⟨front ++ segment⟩ := by
    rw [components_of_bytes spelled, components_append_trailing whole trailing]
  have ne_nil : segment ≠ [] := by
    rintro rfl
    rcases isFront with rfl | ⟨folder, rfl⟩
    · exact whole rfl
    · exact dropTrailing_ne_slash _ folder.reverse (by simpa using backwards)
  have ne_here : segment ≠ [dot] := by
    rintro rfl
    rcases isFront with rfl | ⟨folder, rfl⟩
    · have here : p.components = [.here] := counted.trans rfl
      simp [fileName?, here] at named
    · exact dropTrailing_ne_here _ folder.reverse (by simpa using backwards)
  have ne_up : segment ≠ [dot, dot] := by
    rintro rfl
    have up := counted.trans (components_append_up isFront)
    simp [fileName?, up] at named
  have isName : IsName segment := ⟨ne_nil, single, ne_here, ne_up⟩
  rw [fileName?_of_components (counted.trans (components_append_name isFront isName))] at named
  obtain rfl := Option.some.inj named
  exact ⟨front, junk, spelled, isFront, isName, trailing⟩

theorem components_spelled {front n junk : List UInt8} (isFront : IsFront front) (isName : IsName n)
    (trailing : Trailing junk) :
    components ⟨front ++ n ++ junk.reverse⟩ = components ⟨front⟩ ++ [.name n] := by
  rw [components_append_trailing (by simp [isName.ne_nil]) trailing,
    components_append_name isFront isName]

theorem toNameEnd_spelled {n junk : List UInt8} (front : List UInt8) (isName : IsName n)
    (trailing : Trailing junk) : toNameEnd (front ++ n ++ junk.reverse) = front ++ n := by
  have kept : dropTrailing (n.reverse ++ front.reverse) = n.reverse ++ front.reverse := by
    obtain ⟨c, rest, is⟩ := List.exists_cons_of_ne_nil (List.reverse_ne_nil_iff.mpr isName.ne_nil)
    have inside : ∀ d ∈ c :: rest, d ≠ slash := fun d member ends =>
      isName.no_slash (ends ▸ List.mem_reverse.mp (is ▸ member))
    rw [is]
    refine dropTrailing_eq_self (inside c List.mem_cons_self) ?_
    rintro rfl next
    cases rest with
    | nil => exact isName.ne_here (List.reverse_eq_iff.mp is)
    | cons d rest => exact inside d (.tail _ List.mem_cons_self) (Option.some.inj next)
  rw [toNameEnd, List.reverse_append, List.reverse_reverse, trailing.dropTrailing_append,
    List.reverse_append, kept, ← List.reverse_append, List.reverse_reverse]

end DocAnswers.Path
