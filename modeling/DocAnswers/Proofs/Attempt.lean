import DocAnswers.Sources

/-! Attempts put one behind the other. A failed one ends what was to follow, with the effects so
far. Stages of a run are told apart by the kinds of effects that they have. -/
namespace DocAnswers

namespace Effect

inductive Kind where
  | note
  | request
  | print
  | command
deriving DecidableEq, Repr

def kind : Effect → Kind
  | note _ => .note
  | request _ => .request
  | print _ => .print
  | command _ => .command

variable {es : List Effect}

theorem requests_eq_nil (others : ∀ e ∈ es, e.kind ≠ .request) : requests es = [] := by
  apply List.filterMap_eq_nil_iff.mpr
  intro e member
  cases e with
  | request url => exact absurd rfl (others _ member)
  | note | print | command => rfl

theorem commands_eq_nil (others : ∀ e ∈ es, e.kind ≠ .command) : commands es = [] := by
  apply List.filterMap_eq_nil_iff.mpr
  intro e member
  cases e with
  | command words => exact absurd rfl (others _ member)
  | note | request | print => rfl

theorem printed_eq_empty (others : ∀ e ∈ es, e.kind ≠ .print) : printed es = "" := by
  rw [printed, List.filterMap_eq_nil_iff.mpr, String.join_nil]
  intro e member
  cases e with
  | print text => exact absurd rfl (others _ member)
  | note | request | command => rfl

/-- What is printed in one go, and not before or after, is all that is printed. -/
theorem printed_eq_of_once {before after : List Effect} (text : String)
    (early : ∀ e ∈ before, e.kind ≠ .print) (late : ∀ e ∈ after, e.kind ≠ .print) :
    printed (before ++ .print text :: after) = text := by
  have once : printed (.print text :: after) = text ++ printed after := by
    simp only [printed, List.filterMap_cons, String.join_cons]
  rw [printed_append, once, printed_eq_empty early, printed_eq_empty late, String.empty_append,
    String.append_empty]

end Effect

namespace Attempt
variable {α β : Type}

theorem bind_ok {x : Attempt α} (done : x.run.value = .ok a) (k : α → Attempt β) :
    (x >>= k).run = ⟨x.run.effects ++ (k a).run.effects, (k a).run.value⟩ := by
  rw [ExceptT.run_bind]
  show Traced.mk _ _ = _
  simp only [done]

theorem bind_error {x : Attempt α} (failed : x.run.value = .error e) (k : α → Attempt β) :
    (x >>= k).run = ⟨x.run.effects, .error e⟩ := by
  rw [ExceptT.run_bind]
  show Traced.mk _ _ = _
  simp only [failed, Traced.pure_effects, Traced.pure_value, List.append_nil]

/-- What comes of an attempt can be told without its effects. -/
theorem bind_value (x : Attempt α) (k : α → Attempt β) :
    (x >>= k).run.value = x.run.value >>= fun a => (k a).run.value := by
  cases done : x.run.value with
  | error e => rw [bind_error done]; rfl
  | ok a => rw [bind_ok done]; rfl

theorem ofExcept_ok_bind (a : α) (k : α → Attempt β) :
    (ExceptT.mk (pure (.ok a)) : Attempt α) >>= k = k a := rfl

theorem ofExcept_error_bind (e : Failure) (k : α → Attempt β) :
    (ExceptT.mk (pure (.error e)) : Attempt α) >>= k = ExceptT.mk (pure (.error e)) := rfl

/-- An attempt that has effects of some kinds only, whether it fails or not. -/
def Only (kinds : List Effect.Kind) (x : Attempt α) : Prop := ∀ e ∈ x.run.effects, e.kind ∈ kinds

variable {kinds : List Effect.Kind}

namespace Only

theorem ret (a : α) : Only kinds (pure a : Attempt α) :=
  fun _ member => absurd member List.not_mem_nil

theorem ofExcept (result : Except Failure α) :
    Only kinds (ExceptT.mk (pure result) : Attempt α) :=
  fun _ member => absurd member List.not_mem_nil

theorem lift {m : Traced α} (h : ∀ e ∈ m.effects, e.kind ∈ kinds) :
    Only kinds (ExceptT.lift m : Attempt α) := by
  intro e member
  rw [ExceptT.run_lift, Traced.map_effects] at member
  exact h e member

theorem note (e : Log.Event) (listed : Effect.Kind.note ∈ kinds) :
    Only kinds (ExceptT.lift (Traced.note e) : Attempt Unit) :=
  lift fun _ member => List.mem_singleton.mp member ▸ listed

theorem bind {x : Attempt α} {k : α → Attempt β} (first : Only kinds x)
    (next : ∀ a, Only kinds (k a)) : Only kinds (x >>= k) := by
  intro e member
  cases done : x.run.value with
  | error failure =>
    rw [bind_error done] at member
    exact first e member
  | ok a =>
    rw [bind_ok done] at member
    rcases List.mem_append.mp member with here | later
    · exact first e here
    · exact next a e later

theorem mapM {f : α → Attempt β} (each : ∀ a, Only kinds (f a)) (as : List α) :
    Only kinds (as.mapM f) := by
  induction as with
  | nil => exact ret []
  | cons a as ih =>
    rw [List.mapM_cons]
    exact (each a).bind fun b => ih.bind fun bs => ret (b :: bs)

theorem mono {wider : List Effect.Kind} {x : Attempt α} (only : Only kinds x)
    (within : kinds ⊆ wider) : Only wider x :=
  fun e member => within (only e member)

theorem requests_eq_nil {x : Attempt α} (only : Only kinds x) (without : .request ∉ kinds) :
    Effect.requests x.run.effects = [] :=
  Effect.requests_eq_nil fun e member is => without (is ▸ only e member)

theorem commands_eq_nil {x : Attempt α} (only : Only kinds x) (without : .command ∉ kinds) :
    Effect.commands x.run.effects = [] :=
  Effect.commands_eq_nil fun e member is => without (is ▸ only e member)

theorem printed_eq_empty {x : Attempt α} (only : Only kinds x) (without : .print ∉ kinds) :
    Effect.printed x.run.effects = "" :=
  Effect.printed_eq_empty fun e member is => without (is ▸ only e member)

end Only

/-- An attempt that fails in some ways only, if it fails. -/
def FailsOnly (ways : Failure → Prop) (x : Attempt α) : Prop := ∀ e, x.run.value = .error e → ways e

variable {ways : Failure → Prop}

namespace FailsOnly

theorem lift (m : Traced α) : FailsOnly ways (ExceptT.lift m : Attempt α) := by
  intro e failed
  rw [ExceptT.run_lift, Traced.map_value] at failed
  contradiction

theorem ret (a : α) : FailsOnly ways (pure a : Attempt α) := lift (pure a)

theorem ofExcept {result : Except Failure α} (h : ∀ e, result = .error e → ways e) :
    FailsOnly ways (ExceptT.mk (pure result) : Attempt α) := h

theorem bind {x : Attempt α} {k : α → Attempt β} (first : FailsOnly ways x)
    (next : ∀ a, FailsOnly ways (k a)) : FailsOnly ways (x >>= k) := by
  intro e failed
  cases done : x.run.value with
  | error failure =>
    rw [bind_error done] at failed
    cases failed
    exact first e done
  | ok a =>
    rw [bind_ok done] at failed
    exact next a e failed

theorem mapM {f : α → Attempt β} (each : ∀ a, FailsOnly ways (f a)) (as : List α) :
    FailsOnly ways (as.mapM f) := by
  induction as with
  | nil => exact ret []
  | cons a as ih =>
    rw [List.mapM_cons]
    exact (each a).bind fun b => ih.bind fun bs => ret (b :: bs)

theorem mono {wider : Failure → Prop} {x : Attempt α} (only : FailsOnly ways x)
    (within : ∀ e, ways e → wider e) : FailsOnly wider x :=
  fun e failed => within e (only e failed)

end FailsOnly

/-- A list of attempts succeeds if each of them does. -/
theorem mapM_ok {f : α → Attempt β} {g : α → β} (as : List α)
    (each : ∀ a ∈ as, (f a).run.value = .ok (g a)) :
    (as.mapM f).run = ⟨as.flatMap fun a => (f a).run.effects, .ok (as.map g)⟩ := by
  induction as with
  | nil => rfl
  | cons a as ih =>
    have rest := ih fun b member => each b (.tail _ member)
    rw [List.mapM_cons, bind_ok (each a List.mem_cons_self),
      bind_ok (congrArg Traced.value rest), rest]
    simp

/-- A list of attempts fails if one of them does. -/
theorem mapM_error {f : α → Attempt β} {as : List α} (member : a ∈ as)
    (failed : (f a).run.value = .error e) : ∃ e', (as.mapM f).run.value = .error e' := by
  induction as with
  | nil => exact absurd member List.not_mem_nil
  | cons b as ih =>
    rw [List.mapM_cons]
    cases first : (f b).run.value with
    | error e' => exact ⟨e', by rw [bind_error first]⟩
    | ok c =>
      have later : a ∈ as := by
        rcases List.mem_cons.mp member with rfl | later
        · simp [failed] at first
        · exact later
      obtain ⟨e', rest⟩ := ih later
      exact ⟨e', by rw [bind_ok first, bind_error rest]⟩

theorem mapM_value (f : α → Attempt β) (as : List α) :
    (as.mapM f).run.value = as.mapM fun a => (f a).run.value := by
  induction as with
  | nil => rfl
  | cons a as ih => simp only [List.mapM_cons, bind_value, ih]; rfl

end Attempt
end DocAnswers
