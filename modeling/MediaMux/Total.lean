/-!
# Totals

The sum of a measure over a list, as in counts of packets and of bytes.
-/

namespace MediaMux

/-- The sum of `measure` over a list. -/
def total {α : Type} (measure : α → Nat) : List α → Nat
  | [] => 0
  | a :: rest => measure a + total measure rest

theorem total_append {α : Type} (measure : α → Nat) (xs ys : List α) :
    total measure (xs ++ ys) = total measure xs + total measure ys := by
  induction xs with
  | nil => simp [total]
  | cons a rest ih => simp [total, ih, Nat.add_assoc]

end MediaMux
