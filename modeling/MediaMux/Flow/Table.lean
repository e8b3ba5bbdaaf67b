import MediaMux.Flow
import MediaMux.Keyed

/-!
# Flows by priority

Every class has at most one flow, and class 0 always has one. `get?` is the view of a table.
-/

namespace MediaMux

/-- The flow of class 0 and those of other classes. -/
structure FlowTable where
  base : Flow := {}
  others : Keyed Priority Flow := []

namespace FlowTable

def get? (t : FlowTable) (p : Priority) : Option Flow :=
  if p = .default then some t.base else t.others.get? p

def put (t : FlowTable) (p : Priority) (f : Flow) : FlowTable :=
  if p = .default then { t with base := f } else { t with others := t.others.put p f }

/-- The classes and their flows, lowest class first. -/
def entries (t : FlowTable) : Keyed Priority Flow := t.others.put .default t.base

/-- The table with the flow of class 0 bound to the transport at `place`. -/
def bind (t : FlowTable) (place : Nat) : FlowTable := { t with base := t.base.bind place }

def outline (t : FlowTable) : Text.Outline :=
  .table (t.entries.map fun e => (e.1.outline, e.2.outline))

theorem get?_default (t : FlowTable) : t.get? .default = some t.base := rfl

theorem get?_put (t : FlowTable) (p q : Priority) (f : Flow) :
    (t.put p f).get? q = if p = q then some f else t.get? q := by
  by_cases hp : p = .default
  · by_cases hq : q = .default
    · simp [put, get?, hp, hq]
    · have : ¬ Priority.default = q := fun h => hq h.symm
      simp [put, get?, hp, hq, this]
  · by_cases hq : q = .default
    · simp [put, get?, hp, hq]
    · simp [put, get?, hp, hq, Keyed.get?_put]

end FlowTable

end MediaMux
