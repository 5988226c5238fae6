import DocAnswers.Proofs.FileTree.Listing
import DocAnswers.Proofs.FileTree.Search
import DocAnswers.Proofs.Sources.Expansion

/-! The sources that arguments stand for are the union of what each argument contributes, in the order
of paths. Of the spellings of a path the first one in the order of the arguments is kept. -/
namespace DocAnswers

namespace Path
open Std

variable {ps qs : List Path}

/-- Lists in a strict order are equal if they have the same members. -/
theorem eq_of_mem_iff {r : α → α → Prop} (strict : ∀ a b, r a b → ¬r b a) {as bs : List α}
    (ordered : as.Pairwise r) (ordered' : bs.Pairwise r) (same : ∀ a, a ∈ as ↔ a ∈ bs) : as = bs := by
  have distinct {cs : List α} (ordered : cs.Pairwise r) : cs.Nodup :=
    ordered.imp fun {a b} less (is : a = b) => strict a b less (is ▸ less)
  exact ((List.perm_ext_iff_of_nodup (distinct ordered) (distinct ordered')).mpr same).eq_of_pairwise
    (fun a b _ _ less greater => absurd greater (strict a b less)) ordered ordered'

theorem Ascending.find?_components (ascending : Ascending ps) (member : p ∈ ps) :
    ps.find? (·.components == p.components) = some p := by
  induction ps with
  | nil => exact absurd member List.not_mem_nil
  | cons q ps ih =>
    obtain ⟨before, tail⟩ := List.pairwise_cons.mp ascending
    rcases List.mem_cons.mp member with rfl | later
    · exact List.find?_cons_of_pos (by simp)
    · have other : q.components ≠ p.components := by
        intro same
        have less := before p later
        rw [(compare_eq_eq_iff q p).mpr same] at less
        contradiction
      rw [List.find?_cons_of_neg (by simpa using other)]
      exact ih tail later

/-- Paths in order, each as it is spelled first among those that are contributed. -/
structure SortedUnion (contributed files : List Path) : Prop where
  ascending : Ascending files
  spelled : ∀ cs, files.find? (·.components == cs) = contributed.find? (·.components == cs)

namespace SortedUnion
variable {contributed contributed' files files' : List Path}

theorem unique (union : SortedUnion contributed files) (union' : SortedUnion contributed files') :
    files = files' := by
  have strict (p q : Path) (less : p.compare q = .lt) : q.compare p ≠ .lt := by
    rw [OrientedCmp.gt_of_lt less]
    decide
  have subset {as bs : List Path} (a : SortedUnion contributed as) (b : SortedUnion contributed bs)
      (p : Path) (member : p ∈ as) : p ∈ bs := by
    have found := a.ascending.find?_components member
    rw [a.spelled, ← b.spelled] at found
    exact List.mem_of_find?_eq_some found
  exact eq_of_mem_iff strict union.ascending union'.ascending fun p =>
    ⟨subset union union' p, subset union' union p⟩

theorem mem_components_iff (union : SortedUnion contributed files) (cs : List Component) :
    cs ∈ files.map (·.components) ↔ cs ∈ contributed.map (·.components) := by
  have named (ps : List Path) : cs ∈ ps.map (·.components) ↔
      (ps.find? (·.components == cs)).isSome := by simp
  rw [named, named, union.spelled]

/-- The order in which paths are contributed is seen in their spelling only. -/
theorem components_eq (union : SortedUnion contributed files)
    (union' : SortedUnion contributed' files') (same : ∀ p, p ∈ contributed ↔ p ∈ contributed') :
    files.map (·.components) = files'.map (·.components) := by
  have strict (as bs : List Component) (less : List.compareLex Component.compare as bs = .lt) :
      List.compareLex Component.compare bs as ≠ .lt := by
    rw [OrientedCmp.gt_of_lt less]
    decide
  have ordered {ps : List Path} (ascending : Ascending ps) : (ps.map (·.components)).Pairwise
      fun as bs => List.compareLex Component.compare as bs = .lt :=
    List.pairwise_map.mpr (ascending.imp fun {p q} less => by rwa [← compare_eq_compareLex])
  refine eq_of_mem_iff strict (ordered union.ascending) (ordered union'.ascending) fun cs => ?_
  rw [union.mem_components_iff, union'.mem_components_iff, List.mem_map, List.mem_map]
  simp only [same]

end SortedUnion
end Path

namespace Sources
open Std DocAnswers.Path Attempt FileTree

theorem find?_insert (p : Path) {ps : List Path} (ascending : Ascending ps) (cs : List Component) :
    (insert p ps).find? (·.components == cs) = (ps ++ [p]).find? (·.components == cs) := by
  induction ps with
  | nil => rfl
  | cons q ps ih =>
    obtain ⟨before, tail⟩ := List.pairwise_cons.mp ascending
    cases order : p.compare q with
    | lt =>
      have differs : ∀ r ∈ q :: ps, r.components ≠ p.components := by
        intro r member same
        have less : p.compare r = .lt := by
          rcases List.mem_cons.mp member with rfl | later
          · exact order
          · exact TransCmp.lt_trans order (before r later)
        rw [(compare_eq_eq_iff p r).mpr same.symm] at less
        contradiction
      simp only [insert, order, List.find?_append]
      by_cases own : p.components = cs
      · have absent : (q :: ps).find? (·.components == cs) = none :=
          List.find?_eq_none.mpr fun r member => by simpa [own] using differs r member
        rw [absent, List.find?_cons_of_pos (by simpa using own)]
        simp [own]
      · rw [List.find?_cons_of_neg (by simpa using own)]
        simp [own]
    | eq =>
      have same := (compare_eq_eq_iff p q).mp order
      simp only [insert, order, List.find?_append]
      by_cases own : q.components = cs
      · rw [List.find?_cons_of_pos (by simpa using own)]
        rfl
      · simp [same, own]
    | gt =>
      simp only [insert, order, List.cons_append, List.find?_cons, ih tail]

theorem find?_insertAll (new : List Path) {known : List Path} (ascending : Ascending known)
    (cs : List Component) : (insertAll new known).find? (·.components == cs) =
      (known ++ new).find? (·.components == cs) := by
  induction new generalizing known with
  | nil => rw [List.append_nil, insertAll, List.foldl_nil]
  | cons p new ih =>
    rw [insertAll, List.foldl_cons]
    refine (ih (insert_ascending p ascending)).trans ?_
    rw [List.find?_append, find?_insert p ascending, ← List.find?_append, List.append_assoc,
      List.singleton_append]

theorem insertAll_append (new more known : List Path) :
    insertAll (new ++ more) known = insertAll more (insertAll new known) := List.foldl_append

theorem sortedUnion_insertAll (contributed : List Path) :
    SortedUnion contributed (insertAll contributed []) where
  ascending := insertAll_ascending contributed List.Pairwise.nil
  spelled := find?_insertAll contributed List.Pairwise.nil

section Argument
variable {w : Workplace} {arg : String}

/-- What an argument contributes: a file itself, a folder the sources directly in it, and any other
text the files that it finds as a pattern. -/
inductive Contributes (w : Workplace) (arg : String) : List Path → Prop where
  | itself {content around} (names : w.find? ⟨arg⟩ = some ⟨.file content, around⟩) :
      Contributes w arg [⟨arg⟩]
  | children {entries around} (names : w.find? ⟨arg⟩ = some ⟨.folder true entries, around⟩) :
      Contributes w arg ((entries.filter fun e => e.2.isFile && hasKnownExtension ⟨e.1⟩).map
        fun e => Path.join ⟨arg⟩ e.1)
  | found {query} (free : w.find? ⟨arg⟩ = none) (reads : Glob.Query.read arg.toList = .ok query) :
      Contributes w arg ((query.run w).filter w.isFile)

/-- Why an argument contributes nothing at all: it names a folder that cannot be listed, or it names
nothing and is no pattern. -/
inductive Refused (w : Workplace) (arg : String) : Failure → Prop where
  | unlistable {entries around} (names : w.find? ⟨arg⟩ = some ⟨.folder false entries, around⟩) :
      Refused w arg (.unlistableFolder ⟨arg⟩ "Permission denied (os error 13)")
  | illFormed {e} (free : w.find? ⟨arg⟩ = none) (fails : Glob.Query.read arg.toList = .error e) :
      Refused w arg (.badPattern arg e)

theorem hasKnownExtension_join (p : Path) {name : List UInt8} (isName : IsName name) :
    hasKnownExtension (p.join name) = hasKnownExtension ⟨name⟩ := by
  have own : (Path.mk name).components = _ := components_append_name (.inl rfl) isName
  have named : (p.join name).fileName? = (Path.mk name).fileName? := by
    rw [fileName?_of_components (components_join p isName), fileName?_of_components own]
  simp only [hasKnownExtension, extension?, named]

theorem isFile_join (proper : w.spot.Proper) {p : Path}
    (names : w.find? p = some ⟨.folder listable entries, around⟩) (member : e ∈ entries) :
    w.isFile (p.join e.1) = e.2.isFile := by
  cases (Workplace.find?_proper proper names).tree with
  | folder distinct named inside =>
    have isName := named e member
    have there : entries.lookup e.1 = some e.2 := (lookup_eq_some_iff distinct).mpr member
    rw [Workplace.isFile, Workplace.find?_join names isName, Spot.step?_name isName]
    simp only [there, Option.map_some, Option.any_some]

theorem inFolder_eq (proper : w.spot.Proper) {p : Path}
    (names : w.find? p = some ⟨.folder true entries, around⟩) :
    inFolder w p = .ok ((entries.filter fun e => e.2.isFile && hasKnownExtension ⟨e.1⟩).map
      fun e => p.join e.1) := by
  have isName : ∀ e ∈ entries, IsName e.1 := by
    cases (Workplace.find?_proper proper names).tree with
    | folder distinct named inside => exact named
  simp only [inFolder, names, Option.bind_some, list?, List.filter_map]
  congr 2
  refine List.filter_congr fun e member => ?_
  simp only [Function.comp, isFile_join proper names member,
    hasKnownExtension_join p (isName e member)]

theorem ofArgument_value (w : Workplace) (arg : String) :
    (ofArgument w arg).run.value = match Argument.ofText w arg with
      | .file p => .ok [p]
      | .folder p => inFolder w p
      | .pattern text => matching w text := by
  rw [ofArgument]
  cases Argument.ofText w arg with
  | file p => rfl
  | folder p => rfl
  | pattern text =>
    show ((ofArgument.liftExcept (matching w text) : Attempt (List Path)) >>= _).run.value =
      matching w text
    cases result : matching w text with
    | error e => rfl
    | ok found => cases found <;> rfl

/-- An argument either contributes something or is refused. -/
theorem contributes_or_refused (proper : w.spot.Proper) (arg : String) :
    (∃ ps, (ofArgument w arg).run.value = .ok ps ∧ Contributes w arg ps) ∨
      ∃ e, (ofArgument w arg).run.value = .error e ∧ Refused w arg e := by
  rw [ofArgument_value]
  cases found : w.find? ⟨arg⟩ with
  | none =>
    have kind : Argument.ofText w arg = .pattern arg := by
      simp [Argument.ofText, Workplace.isFile, Workplace.isFolder, found]
    simp only [kind, matching]
    cases reads : Glob.Query.read arg.toList with
    | error e => exact .inr ⟨_, rfl, .illFormed found reads⟩
    | ok query => exact .inl ⟨_, rfl, .found found reads⟩
  | some spot =>
    obtain ⟨tree, around⟩ := spot
    cases tree with
    | file content =>
      have kind : Argument.ofText w arg = .file ⟨arg⟩ := by
        simp [Argument.ofText, Workplace.isFile, found, FileTree.isFile]
      simp only [kind]
      exact .inl ⟨_, rfl, .itself found⟩
    | folder listable entries =>
      have kind : Argument.ofText w arg = .folder ⟨arg⟩ := by
        simp [Argument.ofText, Workplace.isFile, Workplace.isFolder, found, FileTree.isFile,
          FileTree.isFolder]
      simp only [kind]
      cases listable with
      | true => exact .inl ⟨_, inFolder_eq proper found, .children found⟩
      | false => exact .inr ⟨_, by simp [inFolder, found, list?], .unlistable found⟩

theorem Contributes.unique (contributes : Contributes w arg ps)
    (contributes' : Contributes w arg qs) : ps = qs := by
  cases contributes <;> cases contributes' <;> simp_all

theorem Contributes.not_refused (contributes : Contributes w arg ps) : ¬Refused w arg e := by
  intro refused
  cases contributes <;> cases refused <;> simp_all

theorem Refused.unique (refused : Refused w arg e) (refused' : Refused w arg e') : e = e' := by
  cases refused <;> cases refused' <;> simp_all

end Argument

section Arguments
variable {w : Workplace} {args : List String}

/-- What several arguments contribute, one after the other. -/
inductive ContributeAll (w : Workplace) : List String → List Path → Prop where
  | none : ContributeAll w [] []
  | next {arg ps args qs} (first : Contributes w arg ps) (rest : ContributeAll w args qs) :
      ContributeAll w (arg :: args) (ps ++ qs)

theorem ContributeAll.mem_iff (all : ContributeAll w args contributed) (p : Path) :
    p ∈ contributed ↔ ∃ arg ∈ args, ∃ ps, Contributes w arg ps ∧ p ∈ ps := by
  induction all with
  | none => simp
  | @next arg ps args qs first rest ih =>
    have own : p ∈ ps ↔ ∃ ps', Contributes w arg ps' ∧ p ∈ ps' := by
      refine ⟨fun member => ⟨ps, first, member⟩, ?_⟩
      rintro ⟨ps', first', member⟩
      rwa [first.unique first']
    rw [List.mem_append, ih, own]
    simp

theorem ContributeAll.unique (all : ContributeAll w args contributed)
    (all' : ContributeAll w args contributed') : contributed = contributed' := by
  induction all generalizing contributed' with
  | none =>
    cases all'
    rfl
  | next first rest ih =>
    cases all' with
    | next first' rest' => rw [first.unique first', ih rest']

theorem contributeAll_iff : (∃ contributed, ContributeAll w args contributed) ↔
    ∀ arg ∈ args, ∃ ps, Contributes w arg ps := by
  induction args with
  | nil => exact ⟨fun _ _ member => absurd member List.not_mem_nil, fun _ => ⟨[], .none⟩⟩
  | cons arg args ih =>
    rw [List.forall_mem_cons, ← ih]
    constructor
    · rintro ⟨contributed, all⟩
      cases all with
      | next first rest => exact ⟨⟨_, first⟩, _, rest⟩
    · rintro ⟨⟨ps, first⟩, qs, rest⟩
      exact ⟨ps ++ qs, .next first rest⟩

/-- The first argument that is refused, and why. -/
def FirstRefused (w : Workplace) (args : List String) (e : Failure) : Prop :=
  ∃ before arg after, args = before ++ arg :: after ∧
    (∀ earlier ∈ before, ∃ ps, Contributes w earlier ps) ∧ Refused w arg e

theorem FirstRefused.unique (first : FirstRefused w args e) (first' : FirstRefused w args e') :
    e = e' := by
  obtain ⟨before, arg, after, split, contributed, refused⟩ := first
  obtain ⟨before', arg', after', rfl, contributed', refused'⟩ := first'
  induction before generalizing before' with
  | nil =>
    cases before' with
    | nil =>
      obtain ⟨rfl, -⟩ := List.cons.inj split
      exact refused.unique refused'
    | cons earlier before' =>
      obtain ⟨rfl, -⟩ := List.cons.inj split
      obtain ⟨ps, contributes⟩ := contributed' earlier List.mem_cons_self
      exact absurd refused contributes.not_refused
  | cons earlier before ih =>
    cases before' with
    | nil =>
      obtain ⟨rfl, -⟩ := List.cons.inj split
      obtain ⟨ps, contributes⟩ := contributed arg' List.mem_cons_self
      exact absurd refused' contributes.not_refused
    | cons earlier' before' =>
      exact ih (fun a member => contributed a (.tail _ member)) before' (List.cons.inj split).2
        (fun a member => contributed' a (.tail _ member))

theorem expandFrom_value (proper : w.spot.Proper) (known : List Path) (args : List String) :
    (∃ contributed, ContributeAll w args contributed ∧
      (expandFrom w known args).run.value = .ok (insertAll contributed known)) ∨
    ∃ e, FirstRefused w args e ∧ (expandFrom w known args).run.value = .error e := by
  induction args generalizing known with
  | nil => exact .inl ⟨[], .none, rfl⟩
  | cons arg args ih =>
    rw [expandFrom]
    rcases contributes_or_refused proper arg with ⟨ps, value, first⟩ | ⟨e, value, refused⟩
    · rw [bind_ok value]
      rcases ih (insertAll ps known) with ⟨contributed, all, rest⟩ | ⟨e, refused, rest⟩
      · exact .inl ⟨ps ++ contributed, .next first all, by rw [rest, insertAll_append]⟩
      · obtain ⟨before, later, after, rfl, earlier, refused⟩ := refused
        exact .inr ⟨e, ⟨arg :: before, later, after, rfl,
          List.forall_mem_cons.mpr ⟨⟨ps, first⟩, earlier⟩, refused⟩, rest⟩
    · rw [bind_error value]
      exact .inr ⟨e, ⟨[], arg, args, rfl, by simp, refused⟩, rfl⟩

theorem expand_error_iff (proper : w.spot.Proper) (args : List String) (e : Failure) :
    (expand w args).run.value = .error e ↔ FirstRefused w args e := by
  rcases expandFrom_value proper [] args with ⟨contributed, all, value⟩ | ⟨e', first, value⟩
  · rw [expand, value]
    constructor
    · intro failed
      contradiction
    · rintro ⟨before, arg, after, rfl, -, refused⟩
      obtain ⟨ps, contributes⟩ := contributeAll_iff.mp ⟨contributed, all⟩ arg (by simp)
      exact absurd refused contributes.not_refused
  · rw [expand, value]
    constructor
    · rintro ⟨⟩
      exact first
    · exact fun first' => congrArg Except.error (first.unique first')

theorem expand_ok_iff (proper : w.spot.Proper) (args : List String) (files : List Path) :
    (expand w args).run.value = .ok files ↔
      ∃ contributed, ContributeAll w args contributed ∧ SortedUnion contributed files := by
  rcases expandFrom_value proper [] args with ⟨contributed, all, value⟩ | ⟨e, first, value⟩
  · rw [expand, value]
    constructor
    · rintro ⟨⟩
      exact ⟨contributed, all, sortedUnion_insertAll contributed⟩
    · rintro ⟨contributed', all', union⟩
      obtain rfl := all.unique all'
      exact congrArg Except.ok ((sortedUnion_insertAll contributed).unique union)
  · rw [expand, value]
    constructor
    · intro done
      contradiction
    · rintro ⟨contributed, all, -⟩
      obtain ⟨before, arg, after, rfl, -, refused⟩ := first
      obtain ⟨ps, contributes⟩ := contributeAll_iff.mp ⟨contributed, all⟩ arg (by simp)
      exact absurd refused contributes.not_refused

theorem expand_fails_iff (proper : w.spot.Proper) (args : List String) :
    (∃ e, (expand w args).run.value = .error e) ↔ ∃ arg ∈ args, ∃ e, Refused w arg e := by
  constructor
  · rintro ⟨e, failed⟩
    obtain ⟨before, arg, after, rfl, -, refused⟩ := (expand_error_iff proper args e).mp failed
    exact ⟨arg, by simp, e, refused⟩
  · rintro ⟨arg, member, e, refused⟩
    cases value : (expand w args).run.value with
    | error e' => exact ⟨e', rfl⟩
    | ok files =>
      obtain ⟨contributed, all, -⟩ := (expand_ok_iff proper args files).mp value
      obtain ⟨ps, contributes⟩ := contributeAll_iff.mp ⟨contributed, all⟩ arg member
      exact absurd refused contributes.not_refused

theorem mem_expand_iff {files : List Path} (proper : w.spot.Proper)
    (done : (expand w args).run.value = .ok files) (p : Path) :
    (∃ q ∈ files, q.components = p.components) ↔
      ∃ arg ∈ args, ∃ ps, Contributes w arg ps ∧ ∃ q ∈ ps, q.components = p.components := by
  obtain ⟨contributed, all, union⟩ := (expand_ok_iff proper args files).mp done
  have same := union.mem_components_iff p.components
  simp only [List.mem_map, all.mem_iff] at same
  rw [same]
  constructor
  · rintro ⟨q, ⟨arg, member, ps, contributes, listed⟩, is⟩
    exact ⟨arg, member, ps, contributes, q, listed, is⟩
  · rintro ⟨arg, member, ps, contributes, q, listed, is⟩
    exact ⟨q, ⟨arg, member, ps, contributes, listed⟩, is⟩

theorem expand_perm {files : List Path} (proper : w.spot.Proper) (perm : args.Perm args')
    (done : (expand w args).run.value = .ok files) :
    ∃ files', (expand w args').run.value = .ok files' ∧
      files'.map (·.components) = files.map (·.components) := by
  obtain ⟨contributed, all, union⟩ := (expand_ok_iff proper args files).mp done
  obtain ⟨contributed', all'⟩ := contributeAll_iff.mpr fun arg member =>
    contributeAll_iff.mp ⟨contributed, all⟩ arg (perm.mem_iff.mpr member)
  have union' := sortedUnion_insertAll contributed'
  refine ⟨_, (expand_ok_iff proper args' _).mpr ⟨contributed', all', union'⟩, ?_⟩
  apply union'.components_eq union
  intro p
  simp only [all.mem_iff, all'.mem_iff, perm.mem_iff]

/-- Finding sources fails with the first argument that is refused. Otherwise it leads to the paths
that some argument contributes, in the order of their components and each once, spelled as it is
contributed first. In another order the same arguments lead to the same paths. -/
theorem expand_is_sorted_union (proper : w.spot.Proper) (args : List String) :
    (∀ e, (expand w args).run.value = .error e ↔ FirstRefused w args e) ∧
    ((∃ e, (expand w args).run.value = .error e) ↔ ∃ arg ∈ args, ∃ e, Refused w arg e) ∧
    (∀ files, (expand w args).run.value = .ok files ↔
      ∃ contributed, ContributeAll w args contributed ∧ SortedUnion contributed files) ∧
    (∀ files, (expand w args).run.value = .ok files → ∀ p : Path,
      (∃ q ∈ files, q.components = p.components) ↔
        ∃ arg ∈ args, ∃ ps, Contributes w arg ps ∧ ∃ q ∈ ps, q.components = p.components) ∧
    ∀ args', args.Perm args' → ∀ files, (expand w args).run.value = .ok files →
      ∃ files', (expand w args').run.value = .ok files' ∧
        files'.map (·.components) = files.map (·.components) := by
  refine ⟨expand_error_iff proper args, expand_fails_iff proper args, expand_ok_iff proper args,
    ?_, ?_⟩
  · intro files done p
    exact mem_expand_iff proper done p
  · intro args' perm files done
    exact expand_perm proper perm done

/-- A project with a source next to a folder that has another one. -/
def nestedProject : Workplace :=
  .ofTree ⟨"/project"⟩ (ofListing [(⟨"b.c"⟩, []), (⟨"lib/a.c"⟩, []), (⟨"lib/notes"⟩, [])] [])

theorem nestedProject_proper : nestedProject.spot.Proper :=
  Workplace.ofTree_proper _ (proper_ofListing _ _)

theorem expand_nestedProject : (expand nestedProject ["lib//a.c", "lib", "*"]).run.value =
    .ok [⟨"b.c"⟩, ⟨"lib//a.c"⟩] := by
  have file : Contributes nestedProject "lib//a.c" [⟨"lib//a.c"⟩] := .itself rfl
  have folder : Contributes nestedProject "lib" [⟨"lib/a.c"⟩] := by
    have children : Contributes nestedProject "lib" _ := .children rfl
    exact children
  have pattern : Contributes nestedProject "*" [⟨"b.c"⟩] := by
    let listed := nestedProject.spot.tree.list?.getD []
    have order : sorted listed = listed := by
      apply List.mergeSort_of_pairwise
      decide
    have run : (Glob.Query.mk false [[.anyText]] false).run nestedProject = [⟨"b.c"⟩, ⟨"lib"⟩] := by
      simp only [Glob.Query.run, Glob.search_star, Found.entries]
      show ((((sorted listed).map _).filter _).map _).map _ = _
      rw [order]
      rfl
    have found : Contributes nestedProject "*" _ := .found rfl Glob.Query.read_star
    rwa [run] at found
  have all := ContributeAll.next file (.next folder (.next pattern .none))
  exact (expand_ok_iff nestedProject_proper _ _).mpr ⟨_, all, sortedUnion_insertAll _⟩

/-- The arguments may as well come in another order. -/
theorem expand_is_sorted_union_nested :
    nestedProject.spot.Proper ∧
      (expand nestedProject ["lib//a.c", "lib", "*"]).run.value =
        .ok [⟨"b.c"⟩, ⟨"lib//a.c"⟩] ∧
      ∃ files, (expand nestedProject ["lib", "*", "lib//a.c"]).run.value = .ok files ∧
        files.map (·.components) = [[.name "b.c"], [.name "lib", .name "a.c"]] := by
  obtain ⟨-, -, -, -, perm⟩ :=
    expand_is_sorted_union nestedProject_proper ["lib//a.c", "lib", "*"]
  obtain ⟨files, value, same⟩ :=
    perm ["lib", "*", "lib//a.c"] (by decide) _ expand_nestedProject
  exact ⟨nestedProject_proper, expand_nestedProject, files, value, same⟩

end Arguments
end Sources
end DocAnswers
