import MediaMux.Keyed

/-!
# Entries in increasing order of their keys

`put` and `remove` keep the order (`Sorted.put`, `Sorted.remove`). In a sorted list the entry for a
key has one place, and both change the list at that place only (`Sorted.exists_split_remove`).
-/

namespace MediaMux.Keyed

variable {κ α : Type} [LT κ]

/-- The keys increase from each entry to all later ones. -/
def Sorted (entries : Keyed κ α) : Prop := entries.Pairwise fun e f => e.1 < f.1

variable [DecidableEq κ] [DecidableLT κ]

theorem mem_put {entries : Keyed κ α} {key : κ} {a : α} {e : κ × α}
    (h : e ∈ entries.put key a) : e = (key, a) ∨ e ∈ entries := by
  induction entries with
  | nil => exact Or.inl (by simpa [put] using h)
  | cons f rest ih =>
    obtain ⟨k, b⟩ := f
    simp only [put] at h
    split at h
    · exact List.mem_cons.mp h
    · split at h
      · rcases List.mem_cons.mp h with h | h
        · exact Or.inl h
        · exact Or.inr (List.mem_cons_of_mem _ h)
      · rcases List.mem_cons.mp h with h | h
        · exact Or.inr (h ▸ List.mem_cons_self)
        · exact (ih h).imp_right (List.mem_cons_of_mem _)

section Ordered

variable [LE κ] [Std.IsLinearOrder κ] [Std.LawfulOrderLT κ]

omit [DecidableLT κ] [Std.IsLinearOrder κ] in
theorem get?_eq_none_of_lt {entries : Keyed κ α} {key : κ} (h : ∀ e ∈ entries, key < e.1) :
    entries.get? key = none := by
  induction entries with
  | nil => rfl
  | cons e rest ih =>
    obtain ⟨k, b⟩ := e
    have hk : k ≠ key := fun hk => Std.lt_irrefl (hk ▸ h (k, b) List.mem_cons_self)
    rw [get?_cons, if_neg hk]
    exact ih fun e he => h e (List.mem_cons_of_mem _ he)

theorem Sorted.put {entries : Keyed κ α} (h : entries.Sorted) (key : κ) (a : α) :
    (entries.put key a).Sorted := by
  induction entries with
  | nil => exact List.pairwise_singleton _ _
  | cons e rest ih =>
    obtain ⟨k, b⟩ := e
    obtain ⟨hle, hrest⟩ := List.pairwise_cons.mp h
    simp only [Keyed.put]
    split
    · next hlt =>
      refine List.pairwise_cons.mpr ⟨?_, h⟩
      intro f hf
      rcases List.mem_cons.mp hf with rfl | hf
      · exact hlt
      · exact Std.lt_trans hlt (hle f hf)
    · next hlt =>
      split
      · next hk => exact List.pairwise_cons.mpr ⟨fun f hf => hk ▸ hle f hf, hrest⟩
      · next hk =>
        refine List.pairwise_cons.mpr ⟨?_, ih hrest⟩
        intro f hf
        rcases mem_put hf with rfl | hf
        · exact Std.lt_of_le_of_ne (Std.not_lt.mp hlt) hk
        · exact hle f hf

omit [DecidableLT κ] [Std.IsLinearOrder κ] in
theorem Sorted.get?_of_mem {entries : Keyed κ α} (h : entries.Sorted) {key : κ} {a : α}
    (ha : (key, a) ∈ entries) : entries.get? key = some a := by
  induction entries with
  | nil => cases ha
  | cons e rest ih =>
    obtain ⟨k, b⟩ := e
    obtain ⟨hle, hrest⟩ := List.pairwise_cons.mp h
    rcases List.mem_cons.mp ha with hhead | hmem
    · cases hhead
      rw [get?_cons, if_pos rfl]
    · have hk : k ≠ key := fun hk => Std.lt_irrefl (hk ▸ hle (key, a) hmem)
      rw [get?_cons, if_neg hk]
      exact ih hrest hmem

omit [LT κ] [DecidableLT κ] [LE κ] [Std.IsLinearOrder κ] [Std.LawfulOrderLT κ] in
theorem find?_eq (entries : Keyed κ α) (key : κ) :
    entries.find? (fun e => e.1 = key) = (entries.get? key).map fun a => (key, a) := by
  induction entries with
  | nil => rfl
  | cons e rest ih =>
    obtain ⟨k, a⟩ := e
    rw [get?_cons]
    by_cases hk : k = key
    · subst hk
      simp
    · simp [hk, ih]

omit [DecidableLT κ] [Std.IsLinearOrder κ] in
/-- Among entries that were picked by their values there is one for a key if its entry was picked.
-/
theorem Sorted.get?_filter {entries : Keyed κ α} (h : entries.Sorted) (p : α → Bool) (key : κ) :
    get? (entries.filter fun e => p e.2) key = (entries.get? key).filter p := by
  induction entries with
  | nil => rfl
  | cons e rest ih =>
    obtain ⟨k, a⟩ := e
    obtain ⟨hle, hrest⟩ := List.pairwise_cons.mp h
    rw [get?_cons]
    by_cases hk : k = key
    · subst hk
      -- there is no other entry for the key
      have hnone := ih hrest
      rw [get?_eq_none_of_lt hle] at hnone
      by_cases hp : p a = true <;> simp [hp, hnone, get?_cons, Option.filter_some]
    · rw [if_neg hk, ← ih hrest]
      by_cases hp : p a = true <;> simp [hp, hk, get?_cons]

omit [DecidableLT κ] [Std.IsLinearOrder κ] in
theorem Sorted.find?_filter {entries : Keyed κ α} (h : entries.Sorted) (p : α → Bool) (key : κ) :
    (entries.filter fun e => p e.2).find? (fun e => e.1 = key) =
      ((entries.get? key).filter p).map fun a => (key, a) := by
  rw [find?_eq, h.get?_filter]

/-- The place of a key: `put` leaves what is before and after it alone. -/
theorem Sorted.exists_split {entries : Keyed κ α} (h : entries.Sorted) (key : κ) (a : α) :
    ∃ before after, entries.put key a = before ++ (key, a) :: after ∧
      entries = before ++ ((entries.get? key).map fun b => (key, b)).toList ++ after := by
  induction entries with
  | nil => exact ⟨[], [], rfl, rfl⟩
  | cons e rest ih =>
    obtain ⟨k, b⟩ := e
    obtain ⟨hle, hrest⟩ := List.pairwise_cons.mp h
    by_cases hlt : key < k
    · have hnone : get? ((k, b) :: rest) key = none := by
        refine get?_eq_none_of_lt fun f hf => ?_
        rcases List.mem_cons.mp hf with rfl | hf
        · exact hlt
        · exact Std.lt_trans hlt (hle f hf)
      exact ⟨[], (k, b) :: rest, by simp [Keyed.put, hlt], by simp [hnone]⟩
    · by_cases hk : k = key
      · subst hk
        exact ⟨[], rest, by simp [Keyed.put, Std.lt_irrefl], by simp [get?_cons]⟩
      · obtain ⟨before, after, hput, hrest⟩ := ih hrest
        refine ⟨(k, b) :: before, after, by simp [Keyed.put, hlt, hk, hput], ?_⟩
        rw [get?_cons, if_neg hk, List.cons_append, List.cons_append, ← hrest]

omit [DecidableLT κ] [LE κ] [Std.IsLinearOrder κ] [Std.LawfulOrderLT κ] in
theorem Sorted.remove {entries : Keyed κ α} (h : entries.Sorted) (key : κ) :
    (entries.remove key).Sorted := h.sublist List.filter_sublist

/-- Removing a key takes its entry out of its place. -/
theorem Sorted.exists_split_remove {entries : Keyed κ α} (h : entries.Sorted) (key : κ) (a : α) :
    ∃ before after, entries.put key a = before ++ (key, a) :: after ∧
      entries = before ++ ((entries.get? key).map fun b => (key, b)).toList ++ after ∧
      entries.remove key = before ++ after := by
  obtain ⟨before, after, hput, hentries⟩ := h.exists_split key a
  refine ⟨before, after, hput, hentries, ?_⟩
  have hsorted := h.put key a
  rw [hput] at hsorted
  obtain ⟨-, hafter, hbefore⟩ := List.pairwise_append.mp hsorted
  have hbelow : ∀ e ∈ before, e.1 ≠ key := by
    intro e he heq
    exact Std.lt_irrefl (heq ▸ hbefore e he (key, a) List.mem_cons_self)
  have habove : ∀ e ∈ after, e.1 ≠ key := by
    intro e he heq
    exact Std.lt_irrefl (heq ▸ (List.pairwise_cons.mp hafter).1 e he)
  have hold : ∀ old : Option α,
      (old.map fun b => (key, b)).toList.filter (fun e => decide (e.1 ≠ key)) = [] := by
    intro old
    cases old <;> simp
  have hkeep : ∀ {part : Keyed κ α}, (∀ e ∈ part, e.1 ≠ key) →
      part.filter (fun e => decide (e.1 ≠ key)) = part := by
    intro part hpart
    exact List.filter_eq_self.mpr fun e he => decide_eq_true (hpart e he)
  rw [Keyed.remove, hentries, List.filter_append, List.filter_append, hkeep hbelow, hkeep habove,
    hold, List.append_nil]

/-- Putting an entry leaves it beside the entries for other keys. -/
theorem Sorted.put_perm {entries : Keyed κ α} (h : entries.Sorted) (key : κ) (a : α) :
    (entries.put key a).Perm ((key, a) :: entries.remove key) := by
  obtain ⟨before, after, hput, -, hremove⟩ := h.exists_split_remove key a
  rw [hput, hremove]
  exact List.perm_middle

theorem Sorted.perm_remove {entries : Keyed κ α} (h : entries.Sorted) {key : κ} {a : α}
    (ha : entries.get? key = some a) : entries.Perm ((key, a) :: entries.remove key) := by
  obtain ⟨before, after, -, hentries, hremove⟩ := h.exists_split_remove key a
  have hsame : entries = before ++ (key, a) :: after := by simpa [ha] using hentries
  rw [hremove, hsame]
  exact List.perm_middle

omit [DecidableLT κ] in
/-- Sorted entries are settled by what there is for each key. -/
theorem Sorted.ext {entries entries' : Keyed κ α} (h : entries.Sorted) (h' : entries'.Sorted)
    (hsame : ∀ key, entries.get? key = entries'.get? key) : entries = entries' := by
  induction entries generalizing entries' with
  | nil =>
    cases entries' with
    | nil => rfl
    | cons e rest =>
      obtain ⟨k, a⟩ := e
      simpa [get?_cons] using hsame k
  | cons e rest ih =>
    obtain ⟨k, a⟩ := e
    obtain ⟨hle, hrest⟩ := List.pairwise_cons.mp h
    cases entries' with
    | nil => simpa [get?_cons] using hsame k
    | cons e' rest' =>
      obtain ⟨k', a'⟩ := e'
      obtain ⟨hle', hrest'⟩ := List.pairwise_cons.mp h'
      have hmiss : ∀ {j j' : κ} {x : α} {more : Keyed κ α}, j < j' →
          (∀ f ∈ more, j' < f.1) → get? ((j', x) :: more) j = none := by
        intro j j' x more hlt hmore
        refine get?_eq_none_of_lt fun f hf => ?_
        rcases List.mem_cons.mp hf with rfl | hf
        · exact hlt
        · exact Std.lt_trans hlt (hmore f hf)
      -- a key before all others would be missing on the other side
      have hkey : k = k' := by
        rcases Std.lt_trichotomy k k' with hlt | heq | hlt
        · have hnone := hsame k
          simp [get?_cons k a, hmiss hlt hle'] at hnone
        · exact heq
        · have hnone := hsame k'
          simp [get?_cons k' a', hmiss hlt hle] at hnone
      subst hkey
      have hvalue : a = a' := by simpa [get?_cons] using hsame k
      subst hvalue
      refine congrArg ((k, a) :: ·) (ih hrest hrest' ?_)
      intro key
      by_cases hk : k = key
      · subst hk
        rw [get?_eq_none_of_lt hle, get?_eq_none_of_lt hle']
      · simpa [get?_cons, hk] using hsame key

/-- An entry that is picked can as well be put among the ones that were picked. -/
theorem Sorted.filter_put {entries : Keyed κ α} (h : entries.Sorted) (p : α → Bool) {a : α}
    (ha : p a = true) (key : κ) :
    (entries.put key a).filter (fun e => p e.2) =
      Keyed.put (entries.filter fun e => p e.2) key a := by
  have hpicked : Sorted (entries.filter fun e => p e.2) := h.sublist List.filter_sublist
  refine Sorted.ext ((h.put key a).sublist List.filter_sublist) (hpicked.put key a) ?_
  intro other
  rw [(h.put key a).get?_filter, get?_put, get?_put, h.get?_filter]
  split
  · exact Option.filter_some_pos ha
  · rfl

omit [LT κ] [DecidableLT κ] [LE κ] [Std.IsLinearOrder κ] [Std.LawfulOrderLT κ] in
theorem remove_of_get?_none {entries : Keyed κ α} {key : κ} (h : entries.get? key = none) :
    entries.remove key = entries := by
  induction entries with
  | nil => rfl
  | cons e rest ih =>
    obtain ⟨k, b⟩ := e
    rw [get?_cons] at h
    by_cases hk : k = key
    · simp [hk] at h
    · rw [if_neg hk] at h
      simpa [Keyed.remove, hk] using ih h

end Ordered

end MediaMux.Keyed
