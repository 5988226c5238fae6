import DocAnswers.Proofs.FileTree.Plain

/-! What a plain pattern finds. No literal segment and no wildcard of such a pattern stands for `.` or
`..`, so that every step of the search goes down to an entry of a folder. -/
namespace DocAnswers.FileTree
open DocAnswers.Path

namespace Pattern

theorem prefix_pushFolders (done : Pattern) : done <+: pushFolders done := by
  rw [pushFolders]
  split
  · exact List.prefix_rfl
  · exact List.prefix_append done [.anyFolders]

/-- What has been read of a pattern stays. -/
theorem prefix_of_readFrom (reads : readFrom position previous done cs = .ok p) : done <+: p := by
  -- Each case adds to what is done, or fails.
  fun_induction readFrom position previous done cs with
  | case1 =>
    cases reads
    exact List.prefix_rfl
  | case2 position previous done rest ih => exact (List.prefix_append done _).trans (ih reads)
  | case3 => contradiction
  | case4 => contradiction
  | case5 position previous done rest _ after _ _ ih =>
    exact (prefix_pushFolders done).trans (ih reads)
  | case6 position previous done =>
    cases reads
    exact prefix_pushFolders done
  | case7 position previous done rest _ _ ih => exact (List.prefix_append done _).trans (ih reads)
  | case8 => contradiction
  | case9 position previous done rest set after _ _ ih =>
    exact (List.prefix_append done _).trans (ih reads)
  | case10 position previous done =>
    cases reads
    exact List.prefix_append done _
  | case11 position previous done c rest _ _ _ _ _ ih =>
    exact (List.prefix_append done _).trans (ih reads)

theorem ne_char_of_bracket {wild : Wild} (reads : bracket cs = some (wild, after)) (c : Char) :
    wild ≠ .char c := by
  rw [bracket.eq_def] at reads
  split at reads
  · obtain ⟨read, -, is⟩ := Option.map_eq_some_iff.mp reads
    cases is
    simp
  · obtain ⟨read, -, is⟩ := Option.map_eq_some_iff.mp reads
    cases is
    simp

/-- Only a character that is written first stands first in a pattern. -/
theorem head?_of_read (reads : read cs = .ok p) (starts : p.head? = some (.char c)) :
    cs.head? = some c := by
  have first {w : Wild} {position previous rest}
      (reads : readFrom position previous [w] rest = .ok p) : w = .char c := by
    obtain ⟨more, rfl⟩ := prefix_of_readFrom reads
    exact Option.some.inj starts
  revert reads
  rw [read]
  fun_cases readFrom 0 none [] cs with
  | case1 =>
    rintro ⟨⟩
    contradiction
  | case2 => exact fun reads => absurd (first reads) (by simp)
  | case3 => simp
  | case4 => simp
  | case5 => exact fun reads => absurd (first reads) (by simp)
  | case6 =>
    rintro ⟨⟩
    cases starts
  | case7 => exact fun reads => absurd (first reads) (by simp)
  | case8 => simp
  | case9 rest set after bracketed =>
    exact fun reads => absurd (first reads) (ne_char_of_bracket bracketed c)
  | case10 rest set after bracketed =>
    rintro ⟨⟩
    exact absurd (Option.some.inj starts) (ne_char_of_bracket bracketed c)
  | case11 d rest =>
    intro reads
    cases first reads
    rfl

theorem head?_of_literal? {p : Pattern} {segment : List Char} (literal : p.literal? = some segment)
    (starts : segment.head? = some c) : p.head? = some (.char c) := by
  cases p with
  | nil =>
    cases literal
    contradiction
  | cons w p =>
    rw [literal?, List.mapM_cons] at literal
    obtain ⟨d, first, rest⟩ := Option.bind_eq_some_iff.mp literal
    obtain ⟨cs, -, is⟩ := Option.bind_eq_some_iff.mp rest
    cases is
    cases starts
    cases w with
    | char c =>
      cases first
      rfl
    | _ => contradiction

theorem accepts_star (cs : List Char) : accepts [.anyText] cs = true := by
  have later (cs : List Char) : accepts.acceptsLater [] cs = !cs.isEmpty := by
    induction cs with
    | nil =>
      rw [accepts.acceptsLater]
      rfl
    | cons c cs ih =>
      rw [accepts.acceptsLater, ih, accepts]
      exact Bool.or_not_self _
  rw [accepts, later, accepts]
  exact Bool.or_not_self _

end Pattern

/-- How a search goes on from a path by names: the program's own folder is left out of it. -/
def Descends (absolute : Bool) (path : Path) : Bool → Prop
  | true => absolute = false ∧ path = ⟨"."⟩
  | false => path.ByNames absolute

theorem Descends.enter (descends : Descends absolute path isHere) (isName : IsName name) :
    (if isHere then ⟨name⟩ else path.join name : Path).ByNames absolute := by
  cases isHere with
  | true =>
    obtain ⟨relative, -⟩ := descends
    rw [relative]
    exact byNames_name isName
  | false => exact ByNames.join descends isName

/-- A place in a proper tree, and a path from which the search goes down to it. -/
structure Found.Named (absolute : Bool) (f : Found) : Prop where
  proper : f.spot.Proper
  descends : Descends absolute f.path f.isHere

section Steps
variable {absolute : Bool} {f next : Found}

theorem Found.named_of_byNames (proper : f.spot.Proper) (byNames : f.path.ByNames absolute) :
    f.Named absolute where
  proper := proper
  descends := by
    rw [isHere, byNames.not_here]
    exact byNames

theorem named_beneath (path : Path) (isHere : Bool) (around : List FileTree) (tree : FileTree) :
    tree.Proper → (∀ t ∈ around, t.Proper) → Descends absolute path isHere →
      ∀ e ∈ beneath path isHere around tree, e.2.Named absolute := by
  refine beneath.induct
    (fun path isHere around tree => tree.Proper → (∀ t ∈ around, t.Proper) →
      Descends absolute path isHere → ∀ e ∈ beneath path isHere around tree, e.2.Named absolute)
    (fun path isHere around entries => (∀ e ∈ entries, IsName e.1 ∧ e.2.Proper) →
      (∀ t ∈ around, t.Proper) → Descends absolute path isHere →
      ∀ e ∈ beneathAll path isHere around entries, e.2.Named absolute)
    ?_ ?_ ?_ ?_ ?_ path isHere around tree
  · intro path isHere around content _ _ _ e member
    contradiction
  · intro path isHere around entries ih proper outer descends e member
    have around_proper := List.forall_mem_cons.mpr ⟨proper, outer⟩
    cases proper with
    | folder _ named inside =>
      rw [beneath, if_pos rfl] at member
      exact ih (fun e listed => ⟨named e listed, inside e listed⟩) around_proper descends e member
  · intro path isHere around listable entries hidden _ _ _ e member
    rw [beneath, if_neg hidden] at member
    contradiction
  · intro path isHere around _ _ _ e member
    contradiction
  · intro path isHere around name tree rest inside below others entries outer descends e member
    obtain ⟨⟨isName, proper⟩, entries⟩ := List.forall_mem_cons.mp entries
    have byNames : inside.ByNames absolute := descends.enter isName
    rw [beneathAll] at member
    rcases List.mem_cons.mp member with rfl | member
    · exact Found.named_of_byNames ⟨proper, outer⟩ byNames
    · rcases List.mem_append.mp member with lower | member
      · exact below proper outer byNames e lower
      · exact others entries outer descends e member

namespace Found.Named

theorem beneath (named : f.Named absolute)
    (member : e ∈ FileTree.beneath f.path f.isHere f.spot.around f.spot.tree) :
    e.2.Named absolute :=
  named_beneath f.path f.isHere f.spot.around f.spot.tree named.proper.tree named.proper.around
    named.descends e member

theorem literal? (named : f.Named absolute) {segment : List UInt8}
    (plain : segment.head? ≠ some dot) (leads : f.literal? segment = some next) :
    next.Named absolute := by
  rw [Found.literal?] at leads
  split at leads
  · contradiction
  · rename_i moves
    obtain ⟨spot, steps, rfl⟩ := Option.map_eq_some_iff.mp leads
    apply named_of_byNames (named.proper.step Proper.inherited steps)
    cases segment with
    | nil =>
      have away : f.isHere = false := by simpa using moves
      have stays : f.path.ByNames absolute := by simpa [Descends, away] using named.descends
      rw [extend, away]
      exact stays.of_components (components_join_empty f.path)
    | cons c cs =>
      have other : c ≠ dot := by simpa using plain
      have isName : IsName (c :: cs) :=
        named.proper.isName_of_step? steps (by simp) (by simp [other]) (by simp [other])
      exact named.descends.enter isName

theorem entry (named : f.Named absolute) (member : (name, next) ∈ f.entries) :
    next.Named absolute := by
  obtain ⟨⟨own, tree⟩, listed, is⟩ := List.mem_map.mp member
  cases is
  rw [sorted, List.mem_mergeSort] at listed
  cases stands : f.spot.tree with
  | file => simp [stands, list?] at listed
  | folder listable entries =>
    cases listable with
    | false => simp [stands, list?] at listed
    | true =>
      have listed : (name, tree) ∈ entries := by simpa [stands, list?] using listed
      have folder_proper := stands ▸ named.proper.tree
      cases folder_proper with
      | folder distinct names inside =>
        have around := List.forall_mem_cons.mpr ⟨named.proper.tree, named.proper.around⟩
        exact named_of_byNames ⟨inside _ listed, around⟩ (named.descends.enter (names _ listed))

end Found.Named
end Steps

theorem Workplace.not_isFile_here (w : Workplace) : w.isFile ⟨"."⟩ = false := by
  obtain ⟨⟨tree, around⟩, name⟩ := w
  cases tree <;> rfl

namespace Glob

/-- A search for patterns without leading dots stays on paths by names. -/
theorem named_of_search {ps : List Pattern} {f last : Found}
    (plain : ∀ p ∈ ps, p.head? ≠ some (.char '.')) (named : f.Named absolute)
    (member : last ∈ search foldersOnly ps f) : last.Named absolute := by
  -- Case 4 follows a literal segment, cases 5 to 7 two stars, and case 8 any other wildcard.
  fun_induction search foldersOnly ps f with
  | case1 => contradiction
  | case2 f =>
    obtain rfl := List.mem_singleton.mp member
    exact named
  | case3 => contradiction
  | case4 p ps f segment literal next leads ih =>
    obtain ⟨first, later⟩ := List.forall_mem_cons.mp plain
    have undotted : (Text.Utf8.encode segment).head? ≠ some dot := fun dotted =>
      first (Pattern.head?_of_literal? literal ((Text.Utf8.head?_encode (by decide) _).mp dotted))
    exact ih later (named.literal? undotted leads) member
  | case5 p f =>
    obtain ⟨below, -⟩ := List.mem_filter.mp member
    obtain ⟨e, listed, rfl⟩ := List.mem_map.mp below
    exact named.beneath listed
  | case6 p f _ _ q qs _ ih => exact ih (List.forall_mem_cons.mp plain).2 named member
  | case7 p f _ _ q qs _ ih =>
    obtain ⟨⟨name, next⟩, below, goes⟩ := List.mem_flatMap.mp member
    dsimp only at goes
    split at goes
    · have later := (List.forall_mem_cons.mp (List.forall_mem_cons.mp plain).2).2
      exact ih next later (named.beneath below) goes
    · contradiction
  | case8 p ps f _ _ _ ih =>
    obtain ⟨first, later⟩ := List.forall_mem_cons.mp plain
    rw [dotNames, if_neg (by simp [first]), List.flatMap_nil, List.nil_append] at member
    obtain ⟨⟨name, next⟩, listed, goes⟩ := List.mem_flatMap.mp member
    dsimp only at goes
    split at goes
    · exact ih next later (named.entry listed) goes
    · contradiction

theorem exists_of_mem_mapM {f : α → Except ε β} {as : List α} {bs : List β}
    (all : as.mapM f = .ok bs) (member : b ∈ bs) : ∃ a ∈ as, f a = .ok b := by
  induction as generalizing bs with
  | nil =>
    cases all
    contradiction
  | cons a as ih =>
    rw [List.mapM_cons] at all
    cases first : f a with
    | error e =>
      rw [first] at all
      contradiction
    | ok b' =>
      cases rest : as.mapM f with
      | error e =>
        rw [first, rest] at all
        contradiction
      | ok bs' =>
        rw [first, rest] at all
        cases all
        rcases List.mem_cons.mp member with rfl | later
        · exact ⟨a, List.mem_cons_self, first⟩
        · obtain ⟨a', listed, is⟩ := ih rest later
          exact ⟨a', .tail _ listed, is⟩

theorem segments_subset (cs : List Char) : segments cs ⊆ pieces cs := by
  simp only [segments]
  split
  · exact List.dropLast_subset _
  · exact List.Subset.refl _

/-- Every pattern of a query is what one segment of the text reads as, if it is not empty. -/
theorem Query.of_read {q : Query} (reads : Query.read cs = .ok q) :
    q.absolute = (cs.head? == some '/') ∧ ∀ p ∈ q.patterns, p = [] ∨
      ∃ piece ∈ pieces cs, Pattern.read piece = .ok p := by
  obtain ⟨body, cut, inside⟩ : ∃ body, body = (if cs.head? == some '/' then cs.drop 1 else cs) ∧
      pieces body ⊆ pieces cs := by
    refine ⟨_, rfl, ?_⟩
    split
    · rename_i slash
      obtain ⟨rest, rfl⟩ := List.head?_eq_some_iff.mp (beq_iff_eq.mp slash)
      exact List.subset_cons_self [] _
    · exact List.Subset.refl _
  cases whole : Pattern.read cs with
  | error e =>
    simp only [Query.read, whole, bind, Except.bind] at reads
    contradiction
  | ok _ =>
    simp only [Query.read, whole, bind, Except.bind, pure, Except.pure, ← cut] at reads
    cases all : (segments body).mapM Pattern.read with
    | error e =>
      rw [all] at reads
      contradiction
    | ok patterns =>
      rw [all] at reads
      cases reads
      refine ⟨rfl, fun p member => ?_⟩
      dsimp only at member
      split at member
      · exact .inl (List.mem_singleton.mp member)
      · obtain ⟨segment, listed, read⟩ := exists_of_mem_mapM all member
        exact .inr ⟨segment, inside (segments_subset body listed), read⟩

theorem Query.byNames_of_run {w : Workplace} {q : Query} (proper : w.spot.Proper) (plain : Plain cs)
    (reads : Query.read cs = .ok q) (found : p ∈ q.run w) (isFile : w.isFile p = true) :
    p.ByNames (cs.head? == some '/') := by
  obtain ⟨absolute, patterns⟩ := Query.of_read reads
  have undotted : ∀ p ∈ q.patterns, p.head? ≠ some (.char '.') := by
    intro p member dot
    rcases patterns p member with rfl | ⟨segment, listed, read⟩
    · contradiction
    · exact plain segment listed (Pattern.head?_of_read read dot)
  obtain ⟨f, searched, rfl⟩ := List.mem_map.mp found
  have start : (if q.absolute then ⟨⟨"/"⟩, w.spot.top⟩ else ⟨⟨"."⟩, w.spot⟩ : Found).Named
      q.absolute := by
    cases q.absolute with
    | true =>
      have root : (Path.mk "/").ByNames true := ⟨[], by decide⟩
      exact Found.named_of_byNames proper.top root
    | false =>
      have isHere : ((Path.mk ".").components == [.here]) = true := by decide
      refine ⟨proper, ?_⟩
      show Descends false ⟨"."⟩ ((Path.mk ".").components == [.here])
      rw [isHere]
      exact ⟨rfl, rfl⟩
  have named := named_of_search undotted start searched
  rw [← absolute]
  have descends := named.descends
  cases here : f.isHere with
  | true =>
    rw [here] at descends
    obtain ⟨-, spelled⟩ := descends
    rw [spelled, Workplace.not_isFile_here] at isFile
    contradiction
  | false =>
    rw [here] at descends
    exact descends

theorem fits_star (name : List UInt8) : fits [.anyText] name = Text.Utf8.isValid name := by
  rw [fits, Pattern.accepts_star, Bool.and_true]

/-- A star finds the listed entries whose names are text. -/
theorem search_star (f : Found) : search false [[.anyText]] f =
    (f.entries.filter fun e => Text.Utf8.isValid e.1).map (·.2) := by
  have each (next : Found) : search false [] next = [next] := by
    rw [search]
    rfl
  have undotted : dotNames [.anyText] f.spot.tree = [] := if_neg (by simp)
  have wild : Pattern.literal? [.anyText] = none := rfl
  have single : Pattern.isFolders [.anyText] = false := rfl
  rw [search, wild]
  dsimp only
  rw [if_neg (by simp [single]), undotted, List.flatMap_nil, List.nil_append]
  simp only [fits_star, each]
  induction f.entries with
  | nil => rfl
  | cons e entries ih =>
    rw [List.flatMap_cons, ih, List.filter_cons]
    split <;> rfl

theorem Query.read_star : Query.read ['*'] = .ok ⟨false, [[.anyText]], false⟩ := by
  have star : Pattern.read ['*'] = .ok [.anyText] := by simp [Pattern.read, Pattern.readFrom]
  have body : (if (['*'].head? == some '/') = true then ['*'].drop 1 else ['*']) = ['*'] := rfl
  have segment : segments ['*'] = [['*']] := rfl
  have patterns : (segments ['*']).mapM Pattern.read = .ok [[.anyText]] := by
    rw [segment, List.mapM_cons, star]
    rfl
  simp only [Query.read, star, bind, Except.bind]
  rw [body, patterns]
  rfl

end Glob
end DocAnswers.FileTree
