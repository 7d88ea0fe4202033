import Backplane.Event

/-!
# Computations that log

An operation of the machine answers with a value and with the events that led to it, oldest
first.  Sequencing two of them appends the events of the second to those of the first, and the
second sees nothing of the events: what the machine does never depends on what was logged.  That
is why most statements about the machine need only `value_bind` and can leave the log alone.

The log is not part of the machine's state.  Two runs that differ in their events only are the same
run for every operation, and the log file, where there is one, is written by whoever runs the
machine (`Backplane.CommandLine.LogFile`).
-/

namespace Backplane

/-- A value and the events reported on the way to it. -/
structure Logged (α : Type) where
  value : α
  events : List Event := []

namespace Logged

variable {α β : Type}

/-- Reports one event. -/
def report (event : Event) : Logged Unit := ⟨(), [event]⟩

/-- Reports an event if there is one. -/
def report? : Option Event → Logged Unit
  | some event => report event
  | none => ⟨(), []⟩

/-- Hands the value on and appends the events. -/
@[inline]
protected def bind (x : Logged α) (f : α → Logged β) : Logged β :=
  match x with
  | ⟨a, before⟩ =>
    match f a with
    | ⟨b, after⟩ => ⟨b, before ++ after⟩

instance : Monad Logged where
  pure a := ⟨a, []⟩
  bind := Logged.bind

@[simp]
theorem value_pure (a : α) : (pure a : Logged α).value = a := rfl

@[simp]
theorem events_pure (a : α) : (pure a : Logged α).events = [] := rfl

@[simp]
theorem value_bind (x : Logged α) (f : α → Logged β) :
    (x >>= f).value = (f x.value).value := rfl

@[simp]
theorem events_bind (x : Logged α) (f : α → Logged β) :
    (x >>= f).events = x.events ++ (f x.value).events := rfl

@[simp]
theorem value_report (event : Event) : (report event).value = () := rfl

@[simp]
theorem events_report (event : Event) : (report event).events = [event] := rfl

@[simp]
theorem events_report? (event : Option Event) : (report? event).events = event.toList := by
  cases event <;> rfl

end Logged

end Backplane
