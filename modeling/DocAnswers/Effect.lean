import DocAnswers.Log.Event

/-! What a run does to the outside. `Traced` pairs a value with the effects that led to it, in order,
so that everything a run does can be read off its result. -/
namespace DocAnswers

inductive Effect where
  | note (event : Log.Event)
  /-- A page is asked for. -/
  | request (url : String)
  | print (text : String)
  /-- A command is started: the program, then its arguments. -/
  | command (words : List String)
deriving DecidableEq, Repr

structure Traced (α : Type) where
  effects : List Effect
  value : α

namespace Traced

def act (e : Effect) : Traced Unit := ⟨[e], ()⟩

def note (e : Log.Event) : Traced Unit := act (.note e)

instance : Monad Traced where
  pure a := ⟨[], a⟩
  bind m k := ⟨m.effects ++ (k m.value).effects, (k m.value).value⟩

@[simp] theorem pure_effects (a : α) : (pure a : Traced α).effects = [] := rfl

@[simp] theorem pure_value (a : α) : (pure a : Traced α).value = a := rfl

@[simp] theorem bind_effects (m : Traced α) (k : α → Traced β) :
    (m >>= k).effects = m.effects ++ (k m.value).effects := rfl

@[simp] theorem bind_value (m : Traced α) (k : α → Traced β) :
    (m >>= k).value = (k m.value).value := rfl

instance : LawfulMonad Traced :=
  LawfulMonad.mk' Traced
    (fun m => congrArg (Traced.mk · m.value) (List.append_nil m.effects))
    (fun _ _ => rfl)
    (fun m k l => congrArg (Traced.mk · (l (k m.value).value).value)
      (List.append_assoc m.effects (k m.value).effects (l (k m.value).value).effects))

@[simp] theorem map_effects (f : α → β) (m : Traced α) : (f <$> m).effects = m.effects :=
  List.append_nil m.effects

@[simp] theorem map_value (f : α → β) (m : Traced α) : (f <$> m).value = f m.value := rfl

theorem mapM_effects (f : α → Traced β) (as : List α) :
    (as.mapM f).effects = as.flatMap fun a => (f a).effects := by
  induction as with
  | nil => rfl
  | cons a as ih =>
    simp only [List.mapM_cons, bind_effects, pure_effects, List.append_nil, ih, List.flatMap_cons]

theorem mapM_value (f : α → Traced β) (as : List α) :
    (as.mapM f).value = as.map fun a => (f a).value := by
  induction as with
  | nil => rfl
  | cons a as ih => simp only [List.mapM_cons, bind_value, pure_value, ih, List.map_cons]

end Traced

namespace Effect

def requests (es : List Effect) : List String :=
  es.filterMap fun | .request url => some url | _ => none

def commands (es : List Effect) : List (List String) :=
  es.filterMap fun | .command words => some words | _ => none

def events (es : List Effect) : List Log.Event :=
  es.filterMap fun | .note e => some e | _ => none

/-- Everything printed, put together. -/
def printed (es : List Effect) : String :=
  String.join (es.filterMap fun | .print text => some text | _ => none)

@[simp] theorem requests_append (es fs : List Effect) :
    requests (es ++ fs) = requests es ++ requests fs := List.filterMap_append

theorem requests_flatMap (f : α → List Effect) (as : List α) :
    requests (as.flatMap f) = as.flatMap fun a => requests (f a) := List.filterMap_flatMap

@[simp] theorem commands_append (es fs : List Effect) :
    commands (es ++ fs) = commands es ++ commands fs := List.filterMap_append

@[simp] theorem printed_append (es fs : List Effect) :
    printed (es ++ fs) = printed es ++ printed fs := by
  simp only [printed, List.filterMap_append, String.join_append]

end Effect
end DocAnswers
