import SqlLexicon.Event
/-!
# Values with the events behind them

A computation that reports its work gives its value together with the events in order. Sequencing
two computations appends their events.
-/

namespace SqlLexicon

/-- A value and the events that were reported on the way to it. -/
structure Logged (α : Type) where
  value : α
  events : List Event := []

namespace Logged

instance : Monad Logged where
  pure a := ⟨a, []⟩
  bind x f := ⟨(f x.value).value, x.events ++ (f x.value).events⟩

variable {α β : Type}

@[simp] theorem value_pure (a : α) : (pure a : Logged α).value = a := rfl

@[simp] theorem events_pure (a : α) : (pure a : Logged α).events = [] := rfl

@[simp] theorem value_bind (x : Logged α) (f : α → Logged β) :
    (x >>= f).value = (f x.value).value := rfl

@[simp] theorem events_bind (x : Logged α) (f : α → Logged β) :
    (x >>= f).events = x.events ++ (f x.value).events := rfl

@[simp] theorem value_map (f : α → β) (x : Logged α) : (f <$> x).value = f x.value := rfl

@[simp] theorem events_map (f : α → β) (x : Logged α) : (f <$> x).events = x.events :=
  List.append_nil x.events

instance : LawfulMonad Logged :=
  LawfulMonad.mk' Logged
    (fun x => congrArg (Logged.mk x.value) (events_map id x))
    (fun _ _ => rfl)
    (fun x f g => congrArg (Logged.mk _) (List.append_assoc x.events _ _))

end Logged

end SqlLexicon
