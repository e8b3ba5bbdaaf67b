import MediaMux.Keyed
import MediaMux.Notifier

/-!
# A desk of named notifiers

Notifiers kept under names, and guards, each of which leaves a line when it is dropped. A step takes
a notifier off the desk or puts one on it, and says what that told to whom.
-/

namespace MediaMux

inductive Desk.Line
  | resolved (name : String) (delivery : Delivery)
  | guardDropped (name : String)
deriving DecidableEq

/-- What can be done at a desk. `createOwning name inner forwards` moves the notifier `inner`, if
there is one, into the new one's callback. -/
inductive Desk.Step
  | create (name : String)
  | createOwning (name inner : String) (forwards : Bool)
  | notify (name : String) (delivery : Delivery)
  | drop (name : String)
  | defuse (name : String)
  | createGuard (name : String)
  | dropGuard (name : String)

/-- Notifiers and guards by name. -/
structure Desk where
  notifiers : Keyed String (Notifier String) := []
  guards : Keyed String Unit := []

namespace Desk

def lines (told : List (String × Delivery)) : List Line := told.map fun t => .resolved t.1 t.2

def place (desk : Desk) (name : String) (n : Notifier String) : Desk × Bool × List Line :=
  let old := desk.notifiers.get? name
  ({ desk with notifiers := desk.notifiers.put name n }, old.isSome,
    lines ((old.map Notifier.drop).getD []))

/-- Takes a notifier off the desk and ends it by `resolve`. -/
def take (desk : Desk) (name : String) (resolve : Notifier String → List (String × Delivery)) :
    Desk × Bool × List Line :=
  match desk.notifiers.get? name with
  | some n => ({ desk with notifiers := desk.notifiers.remove name }, true, lines (resolve n))
  | none => (desk, false, [])

/-- The desk after a step, whether there was something of that name, and the lines left. -/
def step (desk : Desk) : Step → Desk × Bool × List Line
  | .create name => desk.place name (.plain name)
  | .createOwning name inner forwards =>
    match desk.notifiers.get? inner with
    | some n =>
      { desk with notifiers := desk.notifiers.remove inner }.place name (.owning name forwards n)
    | none => desk.place name (.plain name)
  | .notify name delivery => desk.take name (·.notify delivery)
  | .drop name => desk.take name Notifier.drop
  | .defuse name => desk.take name Notifier.defuse
  | .createGuard name =>
    let old := desk.guards.get? name
    ({ desk with guards := desk.guards.put name () }, old.isSome,
      if old.isSome then [.guardDropped name] else [])
  | .dropGuard name =>
    match desk.guards.get? name with
    | some _ => ({ desk with guards := desk.guards.remove name }, true, [.guardDropped name])
    | none => (desk, false, [])

/-- The lines left when all that remains is dropped: the notifiers, then the guards, each in the
order of their names. -/
def finish (desk : Desk) : List Line :=
  lines (desk.notifiers.flatMap fun e => e.2.drop) ++ desk.guards.map fun e => .guardDropped e.1

end Desk

end MediaMux
