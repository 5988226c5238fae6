import DocAnswers.CommandLine.Read

/-! A command line is a list of clauses, which are obeyed one after the other. What one of its settings
or switches does to the options is told by comparing command lines that have the same clauses apart
from those about it. -/
namespace DocAnswers.CommandLine

/-- What a command line can say something about. -/
inductive Item where
  | setting (s : Setting)
  | switch (s : Switch)
deriving DecidableEq, Repr

inductive Clause where
  | paths (paths : List String)
  | set (s : Setting) (value : String)
  | turnOn (s : Switch)
  /-- Nothing behind it counts. -/
  | misuse (error : UsageError)
deriving DecidableEq, Repr

def Clause.item? : Clause → Option Item
  | set s _ => some (.setting s)
  | turnOn s => some (.switch s)
  | paths _ | misuse _ => none

/-- What a command line says. -/
def clauses : List String → List Clause
  | [] => []
  | text :: rest =>
    match Word.ofText text with
    | .operand path => .paths [path] :: clauses rest
    | .divider => [.paths rest]
    | .unknown => [.misuse (.unknown text)]
    | .switch s none => .turnOn s :: clauses rest
    | .switch s (some value) => [.misuse (.attachedValue s value)]
    | .setting s (some value) => .set s value :: clauses rest
    | .setting s none =>
      match rest with
      | [] => [.misuse (.missingValue s)]
      | value :: rest =>
        if Given.canBeValue s value then .set s value :: clauses rest
        else [.misuse (.missingValue s)]

/-- What a command line says about an item. -/
def given (x : Item) (args : List String) : List Clause :=
  (clauses args).filter fun c => c.item? = some x

/-- What a command line says apart from an item. -/
def apartFrom (x : Item) (args : List String) : List Clause :=
  (clauses args).filter fun c => c.item? ≠ some x

namespace Given

def obey (g : Given) : Clause → Except Stop Given
  | .paths paths => .ok (g.addPaths paths)
  | .set s value => g.set s value
  | .turnOn s => g.turnOn s none
  | .misuse e => .error (.misuse e)

/-- To read a command line is to obey its clauses. -/
theorem read_eq_foldlM (g : Given) (args : List String) :
    g.read args = (clauses args).foldlM obey g := by
  fun_induction clauses args generalizing g <;>
    simp_all [Given.read, obey, pure, Except.pure, turnOn, bind, Except.bind]

/-- What has been read, but for what an item does to the options. -/
def forget (x : Item) (f : Options → Options) (g : Given) : Given where
  options := f g.options
  settings := g.settings.filter fun s => Item.setting s ≠ x
  switches := g.switches.filter fun s => Item.switch s ≠ x

/-- Whether an item has been given already. -/
def Has (g : Given) : Item → Prop
  | .setting s => s ∈ g.settings
  | .switch s => s ∈ g.switches

end Given

/-- An item matters to the options only for what is forgotten of them, and can be given on the command
line alone. -/
structure Item.Only (x : Item) (f : Options → Options) : Prop where
  initial : f {} = {}
  paths : ∀ o paths, f { o with paths := o.paths ++ paths } =
    { f o with paths := (f o).paths ++ paths }
  assign : ∀ s, .setting s ≠ x → ∀ value o, s.assign? value (f o) = (s.assign? value o).map f
  apply : ∀ s, .switch s ≠ x → ∀ o, s.apply (f o) = f (s.apply o)
  assigned : ∀ s, .setting s = x → ∀ value o, ∃ o', s.assign? value o = some o' ∧ f o' = f o
  applied : ∀ s, .switch s = x → s ≠ .help ∧ ∀ o, f (s.apply o) = f o
  unset : ∀ s, .setting s = x → s.environmentName? = none

namespace Given
variable {x : Item} {f : Options → Options}

theorem contains_forget_settings {s : Setting} (other : .setting s ≠ x) (g : Given) :
    (g.forget x f).settings.contains s = g.settings.contains s := by
  simp [forget, other]

theorem contains_forget_switches {s : Switch} (other : .switch s ≠ x) (g : Given) :
    (g.forget x f).switches.contains s = g.switches.contains s := by
  simp [forget, other]

theorem set_forget (only : x.Only f) {s : Setting} (other : .setting s ≠ x) (value : String)
    (g : Given) : (g.forget x f).set s value = (g.set s value).map (forget x f) := by
  have options : (g.forget x f).options = f g.options := rfl
  rw [set, set, contains_forget_settings other, options, only.assign s other]
  split
  · rfl
  · cases s.assign? value g.options with
    | none => rfl
    | some o => simp [Except.map, forget, other]

theorem turnOn_forget (only : x.Only f) {s : Switch} (other : .switch s ≠ x) (g : Given) :
    (g.forget x f).turnOn s none = (g.turnOn s none).map (forget x f) := by
  simp only [turnOn]
  rw [contains_forget_switches other]
  split
  · rfl
  · split
    · rfl
    · simp [Except.map, forget, other, only.apply s other]

/-- Clauses that are not about an item do the same whatever is forgotten of it. -/
theorem obey_forget (only : x.Only f) {c : Clause} (other : c.item? ≠ some x) (g : Given) :
    (g.forget x f).obey c = (g.obey c).map (forget x f) := by
  cases c with
  | paths paths => simp [obey, Except.map, addPaths, forget, only.paths]
  | set s value => exact set_forget only (fun is => other (congrArg some is)) value g
  | turnOn s => exact turnOn_forget only (fun is => other (congrArg some is)) g
  | misuse e => rfl

/-- A clause about an item that was not given before is no misuse, and leaves only what is forgotten.
-/
theorem obey_own (only : x.Only f) {c : Clause} (own : c.item? = some x) {g : Given}
    (fresh : ¬g.Has x) : ∃ g', g.obey c = .ok g' ∧ g'.forget x f = g.forget x f := by
  cases c with
  | paths paths => contradiction
  | misuse e => contradiction
  | set s value =>
    cases own
    obtain ⟨o, assigned, same⟩ := only.assigned s rfl value g.options
    refine ⟨{ g with options := o, settings := s :: g.settings }, ?_, ?_⟩
    · rw [obey, set, assigned, if_neg (by simpa [Has] using fresh)]
    · simp [forget, same]
  | turnOn s =>
    cases own
    obtain ⟨useful, applied⟩ := only.applied s rfl
    refine ⟨{ g with options := s.apply g.options, switches := s :: g.switches }, ?_, ?_⟩
    · simp only [obey, turnOn]
      rw [if_neg useful, if_neg (by simpa [Has] using fresh)]
    · simp [forget, applied]

theorem of_set {s : Setting} {value : String} {g g' : Given} (done : g.set s value = .ok g') :
    ∃ o, s.assign? value g.options = some o ∧
      g' = { g with options := o, settings := s :: g.settings } := by
  rw [set] at done
  split at done
  · contradiction
  · cases assigned : s.assign? value g.options with
    | none => simp [assigned] at done
    | some o =>
      rw [assigned] at done
      exact ⟨o, rfl, (Except.ok.inj done).symm⟩

theorem of_turnOn {s : Switch} {g g' : Given} (done : g.turnOn s none = .ok g') :
    g' = { g with options := s.apply g.options, switches := s :: g.switches } := by
  simp only [turnOn] at done
  split at done
  · contradiction
  · split at done
    · contradiction
    · exact (Except.ok.inj done).symm

/-- Only a clause about an item gives it. -/
theorem has_of_obey {c : Clause} (other : c.item? ≠ some x) {g g' : Given}
    (done : g.obey c = .ok g') (has : g'.Has x) : g.Has x := by
  cases c with
  | paths paths =>
    cases done
    cases x <;> exact has
  | set s value =>
    obtain ⟨o, -, rfl⟩ := of_set done
    cases x with
    | setting s' => exact (List.mem_cons.mp has).resolve_left fun is => other (by rw [is]; rfl)
    | switch s' => exact has
  | turnOn s =>
    cases of_turnOn done
    cases x with
    | setting s' => exact has
    | switch s' => exact (List.mem_cons.mp has).resolve_left fun is => other (by rw [is]; rfl)
  | misuse e => contradiction

/-- Where each step does the same to what is forgotten, so do all of them together. -/
theorem foldlM_forget {α : Type} {step : Given → α → Except Stop Given} {as : List α}
    (each : ∀ a ∈ as, ∀ g, step (g.forget x f) a = (step g a).map (forget x f)) (g : Given) :
    as.foldlM step (g.forget x f) = (as.foldlM step g).map (forget x f) := by
  induction as generalizing g with
  | nil => rfl
  | cons a as ih =>
    obtain ⟨here, later⟩ := List.forall_mem_cons.mp each
    rw [List.foldlM_cons, List.foldlM_cons, here]
    cases step g a with
    | error e => rfl
    | ok g' => exact ih later g'

/-- Clauses read without those about an item, if there is one at most. -/
theorem foldlM_obey_forget (only : x.Only f) {cs : List Clause}
    (once : (cs.filter fun c => c.item? = some x).length ≤ 1) {g : Given} (fresh : ¬g.Has x) :
    (cs.filter fun c => c.item? ≠ some x).foldlM obey (g.forget x f) =
      (cs.foldlM obey g).map (forget x f) := by
  induction cs generalizing g with
  | nil => rfl
  | cons c cs ih =>
    by_cases own : c.item? = some x
    · -- There is none behind this one.
      have others : ∀ c ∈ cs, c.item? ≠ some x := by
        simpa [own] using once
      have kept : cs.filter (fun c => c.item? ≠ some x) = cs :=
        List.filter_eq_self.mpr fun c member => decide_eq_true (others c member)
      obtain ⟨g', done, same⟩ := obey_own only own fresh
      rw [List.filter_cons_of_neg (by simpa using own), kept, List.foldlM_cons, done, ← same]
      exact foldlM_forget (fun c member => obey_forget only (others c member)) g'
    · rw [List.filter_cons_of_pos (by simpa using own), List.foldlM_cons, List.foldlM_cons,
        obey_forget only own]
      rw [List.filter_cons_of_neg (by simpa using own)] at once
      cases done : g.obey c with
      | error e => rfl
      | ok g' => exact ih once fun has => fresh (has_of_obey own done has)

theorem fillOne_forget (only : x.Only f) (env : List (String × String)) (s : Setting) (g : Given) :
    fillOne env (g.forget x f) s = (fillOne env g s).map (forget x f) := by
  by_cases own : .setting s = x
  · simp only [fillOne, only.unset s own]
    rfl
  · simp only [fillOne]
    cases s.environmentName?.bind fun name => env.lookup name with
    | none => rfl
    | some value =>
      simp only [contains_forget_settings own, set_forget only own]
      split <;> rfl

theorem fill_congr {env env' : List (String × String)}
    (same : ∀ s name, Setting.environmentName? s = some name → env.lookup name = env'.lookup name)
    (g : Given) : g.fill env = g.fill env' := by
  have each : fillOne env = fillOne env' := by
    funext g s
    have value : (s.environmentName?.bind fun name => env.lookup name) =
        s.environmentName?.bind fun name => env'.lookup name := by
      cases named : s.environmentName? with
      | none => rfl
      | some name => exact same s name named
    rw [fillOne, fillOne, value]
  rw [fill, fill, each]

end Given

section Reading
variable {x : Item} {f : Options → Options} {args args' : List String}

theorem read_congr {env env' : List (String × String)}
    (same : ∀ s name, Setting.environmentName? s = some name → env.lookup name = env'.lookup name)
    (args : List String) : read args env = read args env' := by
  simp only [read, Given.fill_congr same]

/-- The options that some clauses and an environment stand for. -/
def optionsOf (cs : List Clause) (env : List (String × String)) : Except Stop Options := do
  let g ← cs.foldlM Given.obey {}
  let g ← g.fill env
  return g.options

theorem read_eq_optionsOf (args : List String) (env : List (String × String)) :
    read args env = optionsOf (clauses args) env := by
  rw [read, Given.read_eq_foldlM]
  rfl

/-- What is forgotten of the options is all that an item given once brings to them. -/
theorem optionsOf_apartFrom (only : x.Only f) (once : (given x args).length ≤ 1)
    (env : List (String × String)) : optionsOf (apartFrom x args) env = (read args env).map f := by
  have start : ({} : Given).forget x f = {} := by simp [Given.forget, only.initial]
  have obeyed := Given.foldlM_obey_forget only once (g := {}) (by cases x <;> simp [Given.Has])
  rw [start] at obeyed
  rw [read_eq_optionsOf, optionsOf, optionsOf, apartFrom, obeyed]
  cases (clauses args).foldlM Given.obey {} with
  | error e => rfl
  | ok g =>
    have filled : (g.forget x f).fill env = (g.fill env).map (Given.forget x f) :=
      Given.foldlM_forget (fun s _ => Given.fillOne_forget only env s) g
    show (do let g ← (g.forget x f).fill env; return g.options) =
      Except.map f (do let g ← g.fill env; return g.options)
    rw [filled]
    cases g.fill env <;> rfl

/-- Command lines that say the same apart from an item are read to options that differ by it only, if
they can be read at all. -/
theorem read_alike (only : x.Only f) (once : (given x args).length ≤ 1)
    (once' : (given x args').length ≤ 1) (same : apartFrom x args = apartFrom x args')
    (env : List (String × String)) : (read args env).map f = (read args' env).map f := by
  rw [← optionsOf_apartFrom only once, ← optionsOf_apartFrom only once', same]

end Reading

end DocAnswers.CommandLine
