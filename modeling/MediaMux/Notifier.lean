import MediaMux.Text.Outline

/-!
# Delivery notifiers

A notifier is attached to a write and resolved once: acked, lost, or lost by being dropped. Its
callback informs whoever carries its label; a callback may own another notifier, which it then
resolves with the same delivery or drops. `notify` and `defuse` give what is told to whom, in order;
no notifier is left after either.
-/

namespace MediaMux

inductive Delivery
  | acked
  | lost
deriving DecidableEq

namespace Delivery

def ofBool (b : Bool) : Delivery := if b then acked else lost

def word : Delivery → String
  | acked => "acked"
  | lost => "lost"

end Delivery

/-- A notifier that has not been resolved. -/
inductive Notifier (α : Type)
  | plain (label : α)
  | owning (label : α) (forwards : Bool) (inner : Notifier α)
deriving DecidableEq

namespace Notifier

variable {α : Type}

/-- Resolves the notifier: its callback runs, then that of the notifier it owns, with the same
delivery if it forwards and as lost if it does not. -/
def notify : Notifier α → Delivery → List (α × Delivery)
  | plain label, d => [(label, d)]
  | owning label forwards inner, d =>
    (label, d) :: inner.notify (if forwards then d else .lost)

/-- A notifier that is dropped unresolved counts as lost. -/
def drop (n : Notifier α) : List (α × Delivery) := n.notify .lost

/-- Drops the callback without running it; a notifier that it owns is dropped with it. -/
def defuse : Notifier α → List (α × Delivery)
  | plain _ => []
  | owning _ _ inner => inner.drop

/-- The outline of a notifier: it still has its callback. -/
def outline (_ : Notifier α) : Text.Outline := .record "DeliveryNotifier" [("armed", .bool true)]

/-- The labels of the notifier and of those that it owns, outermost first. -/
def labels : Notifier α → List α
  | plain label => [label]
  | owning label _ inner => label :: inner.labels

theorem map_fst_notify (n : Notifier α) (d : Delivery) : (n.notify d).map Prod.fst = n.labels := by
  induction n generalizing d with
  | plain => rfl
  | owning label forwards inner ih => simp [notify, labels, ih]

end Notifier

end MediaMux
