/-!
# Entries by key

A list of entries in increasing order of their keys, with one entry for a key. `get?` is the view:
putting and removing an entry change it at that key and nowhere else.
-/

namespace MediaMux

/-- Entries in increasing order of their keys. -/
abbrev Keyed (κ α : Type) := List (κ × α)

namespace Keyed

variable {κ α : Type} [DecidableEq κ]

def get? (entries : Keyed κ α) (key : κ) : Option α :=
  match entries with
  | [] => none
  | (k, a) :: rest => if k = key then some a else get? rest key

/-- The entries without the one for `key`. -/
def remove (entries : Keyed κ α) (key : κ) : Keyed κ α := entries.filter fun e => e.1 ≠ key

/-- The entries with `a` for `key`, in its place in the order. -/
def put [LT κ] [DecidableLT κ] (entries : Keyed κ α) (key : κ) (a : α) : Keyed κ α :=
  match entries with
  | [] => [(key, a)]
  | (k, b) :: rest =>
    if key < k then (key, a) :: (k, b) :: rest
    else if k = key then (key, a) :: rest
    else (k, b) :: put rest key a

@[simp] theorem get?_nil (key : κ) : get? ([] : Keyed κ α) key = none := rfl

theorem get?_cons (k : κ) (a : α) (rest : Keyed κ α) (key : κ) :
    get? ((k, a) :: rest) key = if k = key then some a else get? rest key := rfl

@[simp] theorem get?_put_self [LT κ] [DecidableLT κ] (entries : Keyed κ α) (key : κ) (a : α) :
    (entries.put key a).get? key = some a := by
  induction entries with
  | nil => simp [put, get?]
  | cons e rest ih =>
    obtain ⟨k, b⟩ := e
    simp only [put]
    split
    · simp [get?]
    · split
      · simp [get?]
      · next hk => simp [get?, hk, ih]

theorem get?_put_of_ne [LT κ] [DecidableLT κ] (entries : Keyed κ α) {key other : κ} (a : α)
    (h : key ≠ other) : (entries.put key a).get? other = entries.get? other := by
  induction entries with
  | nil => simp [put, get?, h]
  | cons e rest ih =>
    obtain ⟨k, b⟩ := e
    simp only [put]
    split
    · simp [get?, h]
    · split
      · next hk =>
        subst hk
        simp [get?, h]
      · simp [get?, ih]

theorem get?_put [LT κ] [DecidableLT κ] (entries : Keyed κ α) (key other : κ) (a : α) :
    (entries.put key a).get? other = if key = other then some a else entries.get? other := by
  split
  · next h => rw [← h, get?_put_self]
  · next h => exact get?_put_of_ne entries a h

@[simp] theorem get?_remove_self (entries : Keyed κ α) (key : κ) :
    (entries.remove key).get? key = none := by
  induction entries with
  | nil => rfl
  | cons e rest ih =>
    obtain ⟨k, b⟩ := e
    by_cases hk : k = key
    · simpa [remove, hk] using ih
    · simpa [remove, hk, get?] using ih

theorem get?_remove_of_ne (entries : Keyed κ α) {key other : κ} (h : key ≠ other) :
    (entries.remove key).get? other = entries.get? other := by
  induction entries with
  | nil => rfl
  | cons e rest ih =>
    obtain ⟨k, b⟩ := e
    by_cases hk : k = key
    · subst hk
      simpa [remove, get?, h] using ih
    · have hcons : remove ((k, b) :: rest) key = (k, b) :: remove rest key := by simp [remove, hk]
      rw [hcons, get?_cons, get?_cons, ih]

theorem get?_of_get?_remove {entries : Keyed κ α} {key other : κ} {a : α}
    (h : (entries.remove key).get? other = some a) : entries.get? other = some a := by
  by_cases heq : key = other
  · subst heq
    simp at h
  · rwa [get?_remove_of_ne entries heq] at h

end Keyed

end MediaMux
