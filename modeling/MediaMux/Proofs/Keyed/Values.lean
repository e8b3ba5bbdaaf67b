import MediaMux.Keyed

/-!
# Changing the values of entries

Changing the values and leaving the keys goes along with looking up, putting and removing.
-/

namespace MediaMux.Keyed

variable {κ α β : Type} [DecidableEq κ]

/-- The entries with their values changed by `f`. -/
def mapValues (f : α → β) (entries : Keyed κ α) : Keyed κ β := entries.map fun e => (e.1, f e.2)

theorem get?_mapValues (f : α → β) (entries : Keyed κ α) (key : κ) :
    (entries.mapValues f).get? key = (entries.get? key).map f := by
  induction entries with
  | nil => rfl
  | cons e rest ih =>
    obtain ⟨k, a⟩ := e
    show get? ((k, f a) :: mapValues f rest) key = _
    rw [get?_cons, get?_cons, ih]
    split <;> rfl

theorem put_mapValues [LT κ] [DecidableLT κ] (f : α → β) (entries : Keyed κ α) (key : κ) (a : α) :
    (entries.mapValues f).put key (f a) = (entries.put key a).mapValues f := by
  induction entries with
  | nil => rfl
  | cons e rest ih =>
    obtain ⟨k, b⟩ := e
    show put ((k, f b) :: mapValues f rest) key (f a) = _
    simp only [put, ih]
    split
    · rfl
    · split <;> rfl

theorem remove_mapValues (f : α → β) (entries : Keyed κ α) (key : κ) :
    (entries.mapValues f).remove key = (entries.remove key).mapValues f := by
  unfold remove mapValues
  rw [List.filter_map]
  rfl

end MediaMux.Keyed
