import DocAnswers.Proofs.Build.Progress
import DocAnswers.Proofs.Language
import DocAnswers.Proofs.Path.Shown

/-! What the commands of a build write. A command has the texts of paths, so that what it writes goes by
the text of a source. The object of a source is called otherwise than any source, but the program that
is linked from it may be called like another source: `a.c.c` makes `a.c`. -/
namespace DocAnswers

namespace Path

/-- The first path is the second with the extension of a source once more. -/
def Repeats (p q : Path) : Prop :=
  ∃ n ∈ q.fileName?, p.components = q.components.dropLast ++ [.name (n ++ (".c" : List UInt8))]

instance (p q : Path) : Decidable (p.Repeats q) :=
  inferInstanceAs (Decidable (∃ n ∈ q.fileName?, _))

end Path

namespace Build
open DocAnswers.Path Text.Utf8

/-- A source in parts: the folder, the name without the extension, and what does not count. The letter
of the extension is the byte 63, that of the extension of an object 6F. -/
structure Parts (p : Path) (front stem junk : List UInt8) : Prop where
  spelled : p.bytes = front ++ (stem ++ [dot, 0x63]) ++ junk.reverse
  isFront : IsFront front
  some : stem ≠ []
  single : slash ∉ stem
  trailing : Trailing junk

theorem exists_parts {p : Path} (known : p.extension? = some ("c" : List UInt8)) :
    ∃ front stem junk, Parts p front stem junk := by
  obtain ⟨front, stem, junk, spelled, isFront, some, isName, trailing, -⟩ := exists_stem known
  exact ⟨front, stem, junk, spelled, isFront, some,
    fun inside => isName.no_slash (List.mem_append_left _ inside), trailing⟩

namespace Parts
variable {p : Path} {front stem junk : List UInt8}

theorem isName (parts : Parts p front stem junk) {x : UInt8} (letter : x ≠ slash ∧ x ≠ dot) :
    IsName (stem ++ [dot, x]) where
  ne_nil := by simp
  no_slash := by simp [parts.single, Ne.symm letter.1, show slash ≠ dot by decide]
  ne_here is := by simpa using congrArg List.length is
  ne_up is := by
    have two := congrArg List.length is
    have none : stem = [] := by simpa using two
    exact parts.some none

theorem components (parts : Parts p front stem junk) :
    p.components = Path.components ⟨front⟩ ++ [.name (stem ++ [dot, 0x63])] := by
  rw [components_of_bytes parts.spelled]
  exact components_spelled parts.isFront (parts.isName (by decide)) parts.trailing

theorem extended (parts : Parts p front stem junk) : p.extension? = .some ("c" : List UInt8) :=
  extension?_spelled parts.spelled parts.isFront parts.some (parts.isName (by decide))
    parts.trailing (by decide)

theorem objectPath_bytes (parts : Parts p front stem junk) :
    (objectPath p).bytes =
      if stem = [dot] ∧ junk = [] then front ++ [dot, dot] else front ++ (stem ++ [dot, 0x6F]) := by
  rw [objectPath, withExtension_spelled parts.spelled parts.extended parts.isFront parts.some
    (parts.isName (by decide)) parts.trailing (by decide), List.append_assoc]
  rfl

theorem programPath_bytes (parts : Parts p front stem junk) :
    (programPath (objectPath p)).bytes =
      front ++ if stem = [dot] then [dot, dot] else stem := by
  by_cases up : stem = [dot] ∧ junk = []
  · have object : (objectPath p).bytes = front ++ [dot, dot] := by
      rw [parts.objectPath_bytes, if_pos up]
    have unnamed : (objectPath p).extension? = none := by
      simp only [extension?, fileName?, components_of_bytes object,
        components_append_up parts.isFront, List.getLast?_concat, Option.bind_none]
    rw [if_pos up.1, programPath, withExtension, dropExtension, unnamed]
    simp only [object, setExtension_up parts.isFront]
  · have object : (objectPath p).bytes =
        front ++ (stem ++ [dot, 0x6F]) ++ ([] : List UInt8).reverse := by
      rw [parts.objectPath_bytes, if_neg up, List.reverse_nil, List.append_nil]
    have extended := extension?_spelled object parts.isFront parts.some (parts.isName (by decide))
      .nothing (by decide)
    rw [programPath, withExtension_spelled object extended parts.isFront parts.some
      (parts.isName (by decide)) .nothing (by decide)]
    by_cases here : stem = [dot] <;> simp [here, suffix, Text.Utf8.encode]

theorem objectPath_components (parts : Parts p front stem junk) :
    (objectPath p).components = Path.components ⟨front⟩ ++
      [if stem = [dot] ∧ junk = [] then .up else .name (stem ++ [dot, 0x6F])] := by
  rw [components_of_bytes parts.objectPath_bytes]
  split
  · exact components_append_up parts.isFront
  · exact components_append_name parts.isFront (parts.isName (by decide))

theorem programPath_components (parts : Parts p front stem junk) :
    (programPath (objectPath p)).components = Path.components ⟨front⟩ ++
      [if stem = [dot] ∨ stem = [dot, dot] then .up else .name stem] := by
  rw [components_of_bytes parts.programPath_bytes]
  by_cases here : stem = [dot]
  · rw [if_pos here, if_pos (.inl here), components_append_up parts.isFront]
  · rw [if_neg here]
    by_cases up : stem = [dot, dot]
    · rw [if_pos (.inr up), up, components_append_up parts.isFront]
    · rw [if_neg (not_or.mpr ⟨here, up⟩),
        components_append_name parts.isFront ⟨parts.some, parts.single, here, up⟩]

/-! The text of a source has parts as well, and what is made of a source is shown as what is made of its
text. -/

theorem mended_append_dot {front as : List UInt8} (isFront : IsFront front) (stem : List UInt8)
    (ascii : ∀ a ∈ as, a.toNat < 0x80) :
    mended (front ++ (stem ++ dot :: as)) = mended front ++ (mended stem ++ dot :: as) := by
  rw [mended_front isFront, mended_append_ascii (by decide), mended_of_ascii ascii]

theorem shown (parts : Parts p front stem junk) :
    Parts p.shown (mended front) (mended stem) junk where
  spelled := by
    have ascii : ∀ b ∈ 0x63 :: junk.reverse, b.toNat < 0x80 := List.forall_mem_cons.mpr
      ⟨by decide, fun b member => parts.trailing.ascii b (List.mem_reverse.mp member)⟩
    have spelled : p.bytes = front ++ (stem ++ dot :: 0x63 :: junk.reverse) := by
      simp [parts.spelled]
    rw [bytes_shown, spelled, mended_append_dot parts.isFront stem ascii]
    simp
  isFront := parts.isFront.mended
  some := mt (mended_eq_nil_iff stem).mp parts.some
  single := mt (mem_mended_iff (by decide) stem).mp parts.single
  trailing := parts.trailing

theorem shown_objectPath (parts : Parts p front stem junk) :
    (objectPath p).shown = objectPath p.shown := by
  apply Path.ext
  rw [bytes_shown, parts.objectPath_bytes, parts.shown.objectPath_bytes]
  simp only [mended_eq_dot_iff]
  split
  · exact mended_append_dot parts.isFront [] (List.forall_mem_singleton.mpr (by decide))
  · exact mended_append_dot parts.isFront stem (List.forall_mem_singleton.mpr (by decide))

theorem shown_programPath (parts : Parts p front stem junk) :
    (programPath (objectPath p)).shown = programPath (objectPath p.shown) := by
  apply Path.ext
  rw [bytes_shown, parts.programPath_bytes, parts.shown.programPath_bytes]
  simp only [mended_eq_dot_iff]
  rw [mended_front parts.isFront]
  split <;> rfl

theorem objectPath_ne_option (parts : Parts p front stem junk) : (objectPath p).text ≠ "-o" := by
  intro is
  have dotted : dot ∈ (objectPath p).shown.bytes := by
    rw [parts.shown_objectPath, parts.shown.objectPath_bytes]
    split <;> simp
  rw [Path.shown, is] at dotted
  exact absurd dotted (by decide)

variable {q : Path} {front' stem' junk' : List UInt8}

/-- A source repeats the extension of another one if that one is called like its stem. -/
theorem repeats_iff (parts : Parts p front stem junk) :
    p.Repeats q ↔ q.components = Path.components ⟨front⟩ ++ [.name stem] := by
  have own : p.components = Path.components ⟨front⟩ ++ [.name (stem ++ (".c" : List UInt8))] :=
    parts.components
  constructor
  · rintro ⟨name, named, repeated⟩
    obtain ⟨folder, is⟩ := exists_folder named
    rw [is, List.dropLast_concat] at repeated
    obtain ⟨rfl, last⟩ := List.append_inj' (own.symm.trans repeated) rfl
    have same : stem = name :=
      List.append_cancel_right (Component.name.inj (List.cons.inj last).1)
    rw [is, same]
  · intro named
    refine ⟨_, fileName?_of_components named, ?_⟩
    rw [named, List.dropLast_concat]
    exact own

/-- An object is not called like a source. -/
theorem objectPath_ne (parts : Parts p front stem junk) (other : Parts q front' stem' junk') :
    (objectPath p).components ≠ q.components := by
  intro same
  rw [parts.objectPath_components, other.components] at same
  have last := (List.cons.inj (List.append_inj' same rfl).2).1
  split at last
  · contradiction
  · have letters := congrArg List.getLast? (Component.name.inj last)
    simp at letters

/-- A program is called like a source only if it is made of one whose name repeats the extension. -/
theorem programPath_eq_iff (parts : Parts p front stem junk) (other : Parts q front' stem' junk') :
    (programPath (objectPath p)).components = q.components ↔ p.Repeats q := by
  rw [parts.programPath_components, parts.repeats_iff]
  by_cases dots : stem = [dot] ∨ stem = [dot, dot]
  · rw [if_pos dots, other.components]
    constructor
    · intro same
      simpa using (List.append_inj' same rfl).2
    · intro same
      -- The name of a source has its extension behind something, so it is longer than two dots.
      have names := Component.name.inj (List.cons.inj (List.append_inj' same rfl).2).1
      have some := List.length_pos_iff.mpr other.some
      have length : stem'.length + 2 = stem.length := by simpa using congrArg List.length names
      have short : stem.length ≤ 2 := by rcases dots with is | is <;> simp [is]
      omega
  · rw [if_neg dots]
    exact eq_comm

end Parts

/-- The path that a compiler is told to write to: the word after the option for it. -/
def target? : List String → Option Path
  | "-o" :: target :: _ => some ⟨target⟩
  | _ :: args => target? args
  | [] => none

theorem target?_compileArguments {source : Path}
    (known : source.extension? = some ("c" : List UInt8)) :
    target? (Toolchain.compileArguments source) = some (objectPath source).shown := by
  obtain ⟨_, _, _, parts⟩ := exists_parts known
  have other : source.text ≠ "-o" := by
    intro is
    have unextended : (ofText "-o").extension? = none := by decide
    rw [← is, ← Path.shown, parts.shown.extended] at unextended
    contradiction
  simp [Toolchain.compileArguments, target?, other, Path.shown, ofText]

theorem target?_linkArguments {object : Path} (other : object.text ≠ "-o") :
    target? (Toolchain.linkArguments object) = some (programPath object).shown := by
  simp [Toolchain.linkArguments, target?, other, Path.shown, ofText]

/-- A command, the compiler first, writes to one of some paths. -/
def Overwrites (files : List Path) (words : List String) : Prop :=
  ∃ target, target? words.tail = some target ∧ ∃ q ∈ files, target.components = q.components

variable {files : List Path} (known : ∀ p ∈ files, p.extension? = some ("c" : List UInt8))
include known

theorem not_overwrites_compile {p : Path} (member : p ∈ files) (compiler : String) :
    ¬Overwrites files (compiler :: Toolchain.compileArguments p) := by
  rintro ⟨target, written, q, listed, same⟩
  rw [List.tail_cons, target?_compileArguments (known p member)] at written
  obtain rfl := Option.some.inj written
  obtain ⟨_, _, _, parts⟩ := exists_parts (known p member)
  obtain ⟨_, _, _, other⟩ := exists_parts (known q listed)
  rw [parts.shown_objectPath] at same
  exact parts.shown.objectPath_ne other same

theorem overwrites_link_iff {p : Path} (member : p ∈ files) (compiler : String) :
    Overwrites files (compiler :: Toolchain.linkArguments (objectPath p)) ↔
      ∃ q ∈ files, p.shown.Repeats q := by
  obtain ⟨_, _, _, parts⟩ := exists_parts (known p member)
  have written := target?_linkArguments parts.objectPath_ne_option
  constructor
  · rintro ⟨target, is, q, listed, same⟩
    rw [List.tail_cons, written] at is
    obtain rfl := Option.some.inj is
    obtain ⟨_, _, _, other⟩ := exists_parts (known q listed)
    rw [parts.shown_programPath] at same
    exact ⟨q, listed, (parts.shown.programPath_eq_iff other).mp same⟩
  · rintro ⟨q, listed, repeated⟩
    obtain ⟨_, _, _, other⟩ := exists_parts (known q listed)
    have same := (parts.shown.programPath_eq_iff other).mpr repeated
    rw [← parts.shown_programPath] at same
    exact ⟨_, written, q, listed, same⟩

end Build

namespace Run
open Build

theorem mem_plan_of_separate (separate : o.separate = true) (w : FileTree.Workplace)
    (files : List Path) : args ∈ plan o w files ↔
      ∃ p ∈ files, args = Toolchain.compileArguments p ∨
        args = Toolchain.linkArguments (objectPath p) := by
  simp [plan, separate, separatePlan]

/-- A build that makes a program of each source writes to none of the sources, whichever of its
commands fail, if and only if the text of no source repeats the extension of another source. The
commands that write to a source link the object of one that does. -/
theorem separate_build_spares_iff {o : Options} (separate : o.separate = true) (s : Surroundings)
    {files : List Path} (known : ∀ p ∈ files, Language.ofPath? p ≠ none) :
    ((∀ exec, ∀ words ∈ Effect.commands (build o { s with exec } files).run.effects,
        ¬Overwrites files words) ↔ ∀ p ∈ files, ∀ q ∈ files, ¬p.shown.Repeats q) ∧
    (∀ exec, ∀ words ∈ Effect.commands (build o { s with exec } files).run.effects,
      Overwrites files words → ∃ p ∈ files, ∃ q ∈ files, p.shown.Repeats q ∧
        words = o.compiler :: Toolchain.linkArguments (objectPath p)) := by
  have extended : ∀ p ∈ files, p.extension? = some ("c" : List UInt8) := fun p member =>
    Language.extension?_of_ofPath? (known p member)
  have linked : ∀ exec, ∀ words ∈ Effect.commands (build o { s with exec } files).run.effects,
      Overwrites files words → ∃ p ∈ files, ∃ q ∈ files, p.shown.Repeats q ∧
        words = o.compiler :: Toolchain.linkArguments (objectPath p) := by
    intro exec words issued overwrites
    rw [build_eq_runAll] at issued
    obtain ⟨args, planned, rfl⟩ := List.mem_map.mp
      ((Toolchain.runAll_commands_prefix ⟨o.compiler⟩ exec 0 _).subset issued)
    obtain ⟨p, member, rfl | rfl⟩ := (mem_plan_of_separate separate _ files).mp planned
    · exact absurd overwrites (not_overwrites_compile extended member o.compiler)
    · obtain ⟨q, listed, repeated⟩ := (overwrites_link_iff extended member o.compiler).mp overwrites
      exact ⟨p, member, q, listed, repeated, rfl⟩
  refine ⟨⟨?_, ?_⟩, linked⟩
  · intro spares p member q listed repeated
    -- Where every command succeeds, the whole plan is run.
    let exec : Executor := fun _ _ => .ok ()
    have planned : Toolchain.linkArguments (objectPath p) ∈ plan o s.workplace files :=
      (mem_plan_of_separate separate s.workplace files).mpr ⟨p, member, .inr rfl⟩
    obtain ⟨n, place⟩ := List.mem_iff_getElem?.mp (List.mem_map_of_mem planned)
    have ran := ((build_course o { s with exec } files).reaches_iff place).mpr fun _ _ _ _ => rfl
    exact spares exec _ (List.mem_of_getElem? ran)
      ((overwrites_link_iff extended member o.compiler).mpr ⟨q, listed, repeated⟩)
  · intro distinct exec words issued overwrites
    obtain ⟨p, member, q, listed, repeated, -⟩ := linked exec words issued overwrites
    exact distinct p member q listed repeated

/-- A program of the same name in another folder, and a source that leaves no name for a program. -/
theorem separate_build_spares_three :
    let files : List Path := [⟨"lib/a.c"⟩, ⟨"a.c.c"⟩, ⟨"lib/..c"⟩]
    let s : Surroundings := ⟨⟨⟨.folder true [], []⟩, none⟩, .unserved, fun _ _ => .ok ()⟩
    (∀ p ∈ files, Language.ofPath? p ≠ none) ∧
      ∀ words ∈ Effect.commands (build { separate := true } s files).run.effects,
        ¬Overwrites files words := by
  intro files s
  have known : ∀ p ∈ files, Language.ofPath? p ≠ none := by decide
  exact ⟨known, (separate_build_spares_iff rfl s known).1.mpr (by decide) s.exec⟩

/-- The program made of `a.c.c` takes the place of the source `a.c`. -/
theorem separate_build_overwrites :
    let files : List Path := [⟨"a.c"⟩, ⟨"a.c.c"⟩]
    let s : Surroundings := ⟨⟨⟨.folder true [], []⟩, none⟩, .unserved, fun _ _ => .ok ()⟩
    (∀ p ∈ files, Language.ofPath? p ≠ none) ∧
      ∃ words ∈ Effect.commands (build { separate := true } s files).run.effects,
        words = ["cc", "a.c.o", "-o", "a.c"] ∧ Overwrites files words := by
  intro files s
  refine ⟨by decide, _, ?_, rfl, ⟨"a.c"⟩, rfl, ⟨"a.c"⟩, List.mem_cons_self, rfl⟩
  decide

end Run
end DocAnswers
