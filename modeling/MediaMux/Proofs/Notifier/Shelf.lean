import MediaMux.Notifier.Desk
import MediaMux.Proofs.Keyed.Sorted
import MediaMux.Proofs.Keyed.Values

/-!
# Notifiers under names

A shelf holds the notifiers of a desk, with labels of any kind. Steps treat notifiers alike whatever
their labels are (`step_mapValues`), and a desk goes through the steps of its shelf (`step_desk`).
So what a step does to labels can be said of labels that tell notifiers of one name apart: which
notifier has a name afterwards (`label_step`, `get?_step_cases`), which acks are told
(`acked_step`), and that no label is lost or doubled but that of a notifier which is defused
(`perm_step`).
-/

namespace MediaMux

variable {α β : Type}

/-! ### Labels -/

namespace Notifier

def label : Notifier α → α
  | plain label => label
  | owning label _ _ => label

/-- The notifier with its labels changed by `f`. -/
def map (f : α → β) : Notifier α → Notifier β
  | plain label => .plain (f label)
  | owning label forwards inner => .owning (f label) forwards (inner.map f)

theorem notify_map (f : α → β) (n : Notifier α) (d : Delivery) :
    (n.map f).notify d = (n.notify d).map (Prod.map f id) := by
  induction n generalizing d with
  | plain label => rfl
  | owning label forwards inner ih => simp [map, notify, ih]

theorem drop_map (f : α → β) (n : Notifier α) :
    (n.map f).drop = n.drop.map (Prod.map f id) := notify_map f n .lost

theorem defuse_map (f : α → β) (n : Notifier α) :
    (n.map f).defuse = n.defuse.map (Prod.map f id) := by
  cases n with
  | plain label => rfl
  | owning label forwards inner => exact drop_map f inner

theorem map_fst_drop (n : Notifier α) : n.drop.map Prod.fst = n.labels := map_fst_notify n .lost

/-- Defusing runs all callbacks but that of the notifier itself. -/
theorem map_fst_defuse (n : Notifier α) : n.labels = n.label :: n.defuse.map Prod.fst := by
  cases n with
  | plain label => rfl
  | owning label forwards inner =>
    show label :: inner.labels = label :: inner.drop.map Prod.fst
    rw [map_fst_drop]

theorem acked_notmem_drop (n : Notifier α) (x : α) : (x, Delivery.acked) ∉ n.drop := by
  unfold drop
  induction n with
  | plain label => simp [notify]
  | owning label forwards inner ih =>
    cases forwards <;> simpa [notify] using ih

theorem acked_notmem_defuse (n : Notifier α) (x : α) : (x, Delivery.acked) ∉ n.defuse := by
  cases n with
  | plain label => exact List.not_mem_nil
  | owning label forwards inner => exact acked_notmem_drop inner x

end Notifier

/-! ### Steps -/

namespace Desk

namespace Step

/-- The name under which the step creates a notifier. -/
def created? : Step → Option String
  | create name => some name
  | createOwning name _ _ => some name
  | notify .. | drop _ | defuse _ | createGuard _ | dropGuard _ => none

/-- Whether a notifier that had the name before the step has it no longer. -/
def clears (s : Step) (name : String) : Bool :=
  match s with
  | create other | notify other _ | drop other | defuse other => other = name
  | createOwning other inner _ => other = name || inner = name
  | createGuard _ | dropGuard _ => false

end Step

/-- What a line says on a notifier, if it says something. -/
def Line.told? : Line → Option (String × Delivery)
  | resolved name d => some (name, d)
  | guardDropped _ => none

end Desk

/-- Notifiers by name. -/
abbrev Shelf (α : Type) := Keyed String (Notifier α)

namespace Shelf

def labels (shelf : Shelf α) : List α := shelf.flatMap fun e => e.2.labels

/-- Puts `n` on the shelf; a notifier that had its name is dropped. -/
def place (shelf : Shelf α) (name : String) (n : Notifier α) : Shelf α × List (α × Delivery) :=
  (shelf.put name n, ((shelf.get? name).map Notifier.drop).getD [])

/-- Takes a notifier off the shelf and ends it by `resolve`. -/
def take (shelf : Shelf α) (name : String) (resolve : Notifier α → List (α × Delivery)) :
    Shelf α × List (α × Delivery) :=
  match shelf.get? name with
  | some n => (shelf.remove name, resolve n)
  | none => (shelf, [])

/-- The shelf after a step that labels the notifier it creates by `label`, and what was told. -/
def step (label : String → α) (shelf : Shelf α) : Desk.Step → Shelf α × List (α × Delivery)
  | .create name => shelf.place name (.plain (label name))
  | .createOwning name inner forwards =>
    match shelf.get? inner with
    | some n => place (shelf.remove inner) name (.owning (label name) forwards n)
    | none => shelf.place name (.plain (label name))
  | .notify name d => shelf.take name (·.notify d)
  | .drop name => shelf.take name Notifier.drop
  | .defuse name => shelf.take name Notifier.defuse
  | .createGuard _ | .dropGuard _ => (shelf, [])

/-! ### Other labels -/

theorem place_mapValues (f : α → β) (shelf : Shelf α) (name : String) (n : Notifier α) :
    place (shelf.mapValues (Notifier.map f)) name (n.map f) =
      ((shelf.place name n).1.mapValues (Notifier.map f),
        (shelf.place name n).2.map (Prod.map f id)) := by
  unfold place
  rw [Keyed.put_mapValues, Keyed.get?_mapValues]
  cases shelf.get? name <;> simp [Notifier.drop_map]

theorem take_mapValues (f : α → β) (shelf : Shelf α) (name : String)
    {resolve : Notifier α → List (α × Delivery)} {resolve' : Notifier β → List (β × Delivery)}
    (h : ∀ n, resolve' (n.map f) = (resolve n).map (Prod.map f id)) :
    take (shelf.mapValues (Notifier.map f)) name resolve' =
      ((shelf.take name resolve).1.mapValues (Notifier.map f),
        (shelf.take name resolve).2.map (Prod.map f id)) := by
  unfold take
  rw [Keyed.get?_mapValues, Keyed.remove_mapValues]
  cases shelf.get? name <;> simp [h]

theorem step_mapValues (f : α → β) (label : String → α) (shelf : Shelf α) (s : Desk.Step) :
    step (f ∘ label) (shelf.mapValues (Notifier.map f)) s =
      ((shelf.step label s).1.mapValues (Notifier.map f),
        (shelf.step label s).2.map (Prod.map f id)) := by
  cases s with
  | create name => exact place_mapValues f shelf name (.plain (label name))
  | createOwning name inner forwards =>
    simp only [step, Keyed.get?_mapValues]
    cases shelf.get? inner with
    | none => exact place_mapValues f shelf name (.plain (label name))
    | some n =>
      have hplace := place_mapValues f (shelf.remove inner) name (.owning (label name) forwards n)
      rw [← Keyed.remove_mapValues] at hplace
      exact hplace
  | notify name d => exact take_mapValues f shelf name fun n => n.notify_map f d
  | drop name => exact take_mapValues f shelf name (Notifier.drop_map f)
  | defuse name => exact take_mapValues f shelf name (Notifier.defuse_map f)
  | createGuard name | dropGuard name => rfl

theorem filterMap_lines (told : List (String × Delivery)) :
    (Desk.lines told).filterMap Desk.Line.told? = told := by
  unfold Desk.lines
  rw [List.filterMap_map]
  exact List.filterMap_some

theorem place_desk (desk : Desk) (name : String) (n : Notifier String) :
    (desk.place name n).1.notifiers = (place desk.notifiers name n).1 ∧
      (desk.place name n).2.2.filterMap Desk.Line.told? = (place desk.notifiers name n).2 :=
  ⟨rfl, filterMap_lines _⟩

theorem take_desk (desk : Desk) (name : String)
    (resolve : Notifier String → List (String × Delivery)) :
    (desk.take name resolve).1.notifiers = (take desk.notifiers name resolve).1 ∧
      (desk.take name resolve).2.2.filterMap Desk.Line.told? =
        (take desk.notifiers name resolve).2 := by
  unfold Desk.take take
  cases desk.notifiers.get? name with
  | none => exact ⟨rfl, rfl⟩
  | some n => exact ⟨rfl, filterMap_lines _⟩

/-- A desk does to its notifiers, labelled by their names, what the shelf does. -/
theorem step_desk (desk : Desk) (s : Desk.Step) :
    (desk.step s).1.notifiers = (step id desk.notifiers s).1 ∧
      (desk.step s).2.2.filterMap Desk.Line.told? = (step id desk.notifiers s).2 := by
  cases s with
  | create name => exact place_desk desk name _
  | createOwning name inner forwards =>
    simp only [Desk.step, step]
    cases desk.notifiers.get? inner with
    | none => exact place_desk desk name _
    | some n =>
      exact place_desk { desk with notifiers := desk.notifiers.remove inner } name
        (.owning name forwards n)
  | notify name d => exact take_desk desk name _
  | drop name => exact take_desk desk name _
  | defuse name => exact take_desk desk name _
  | createGuard name =>
    refine ⟨rfl, ?_⟩
    simp only [Desk.step]
    split <;> rfl
  | dropGuard name =>
    simp only [Desk.step, step]
    split <;> exact ⟨rfl, rfl⟩

/-! ### Putting a notifier on the shelf and taking one off -/

variable {label : String → α} {shelf : Shelf α} {n : Notifier α}

theorem label_take (shelf : Shelf α) (other name : String)
    (resolve : Notifier α → List (α × Delivery)) :
    ((shelf.take other resolve).1.get? name).map Notifier.label =
      if other = name then none else (shelf.get? name).map Notifier.label := by
  unfold take
  by_cases h : other = name
  · subst h
    cases hget : shelf.get? other <;> simp [hget]
  · cases shelf.get? other <;> simp [h, Keyed.get?_remove_of_ne]

theorem get?_of_get?_take {other name : String} {resolve : Notifier α → List (α × Delivery)}
    (h : (shelf.take other resolve).1.get? name = some n) : shelf.get? name = some n := by
  unfold take at h
  cases hother : shelf.get? other with
  | none => simpa [hother] using h
  | some old => exact Keyed.get?_of_get?_remove (by simpa [hother] using h)

theorem get?_place (shelf : Shelf α) (other name : String) (n : Notifier α) :
    (shelf.place other n).1.get? name = if other = name then some n else shelf.get? name :=
  Keyed.get?_put shelf other name n

theorem acked_notmem_place (shelf : Shelf α) (name : String) (n : Notifier α) (x : α) :
    (x, Delivery.acked) ∉ (shelf.place name n).2 := by
  unfold place
  cases shelf.get? name with
  | none => exact List.not_mem_nil
  | some old => exact old.acked_notmem_drop x

theorem acked_notmem_take {x : α} {resolve : Notifier α → List (α × Delivery)}
    (h : ∀ n, (x, Delivery.acked) ∉ resolve n) (name : String) :
    (x, Delivery.acked) ∉ (shelf.take name resolve).2 := by
  unfold take
  cases shelf.get? name with
  | none => exact List.not_mem_nil
  | some n => exact h n

theorem Sorted.take (h : shelf.Sorted) (name : String)
    (resolve : Notifier α → List (α × Delivery)) : (shelf.take name resolve).1.Sorted := by
  unfold Shelf.take
  cases shelf.get? name with
  | none => exact h
  | some n => exact h.remove name

theorem labels_remove (h : shelf.Sorted) {name : String} (hn : shelf.get? name = some n) :
    shelf.labels.Perm (n.labels ++ labels (shelf.remove name)) :=
  (h.perm_remove hn).flatMap_right _

/-- Placing a notifier adds its labels, and those of the one that had its name are told. -/
theorem perm_place (h : shelf.Sorted) (name : String) (n : Notifier α) :
    ((shelf.place name n).2.map Prod.fst ++ (shelf.place name n).1.labels).Perm
      (shelf.labels ++ n.labels) := by
  have hput : (labels (shelf.put name n)).Perm (n.labels ++ labels (shelf.remove name)) :=
    (h.put_perm name n).flatMap_right _
  unfold place
  cases hold : shelf.get? name with
  | none =>
    rw [Keyed.remove_of_get?_none hold] at hput
    exact hput.trans List.perm_append_comm
  | some old =>
    have hremove := labels_remove h hold
    have htold : (old.labels ++ labels (shelf.put name n)).Perm
        (old.labels ++ (labels (shelf.remove name) ++ n.labels)) :=
      (hput.trans List.perm_append_comm).append_left _
    rw [← List.append_assoc] at htold
    simp only [Option.map_some, Option.getD_some, Notifier.map_fst_drop]
    exact htold.trans (hremove.symm.append_right _)

/-- Taking a notifier off tells its labels, if all its callbacks run. -/
theorem perm_take (h : shelf.Sorted) (name : String) {resolve : Notifier α → List (α × Delivery)}
    (hresolve : ∀ n, (resolve n).map Prod.fst = n.labels) :
    ((shelf.take name resolve).2.map Prod.fst ++ labels (shelf.take name resolve).1).Perm
      shelf.labels := by
  unfold take
  cases hget : shelf.get? name with
  | none => exact List.Perm.refl _
  | some n =>
    simp only [hresolve]
    exact (labels_remove h hget).symm

/-! ### What a step does -/

/-- The label that has a name after a step. -/
theorem label_step (s : Desk.Step) (name : String) :
    ((shelf.step label s).1.get? name).map Notifier.label =
      if s.created? = some name then some (label name)
      else if s.clears name then none
      else (shelf.get? name).map Notifier.label := by
  cases s with
  | create other =>
    by_cases h : other = name <;>
      simp [step, get?_place, Desk.Step.created?, Desk.Step.clears, h, Notifier.label]
  | createOwning other inner forwards =>
    by_cases h : other = name
    · cases hinner : shelf.get? inner <;>
        simp [step, get?_place, Desk.Step.created?, hinner, h, Notifier.label]
    · by_cases hmoved : inner = name
      · subst hmoved
        cases hinner : shelf.get? inner <;>
          simp [step, get?_place, Desk.Step.created?, Desk.Step.clears, hinner, h]
      · cases hinner : shelf.get? inner <;>
          simp [step, get?_place, Desk.Step.created?, Desk.Step.clears, hinner, h, hmoved,
            Keyed.get?_remove_of_ne]
  | notify other d | drop other | defuse other =>
    simpa [step, Desk.Step.created?, Desk.Step.clears] using label_take shelf other name _
  | createGuard other | dropGuard other => rfl

/-- A notifier that is on the shelf after a step was there before or was created. -/
theorem get?_step_cases {s : Desk.Step} {name : String}
    (h : (shelf.step label s).1.get? name = some n) :
    shelf.get? name = some n ∨
      (s = .create name ∧ n = .plain (label name)) ∨
      ∃ inner forwards, s = .createOwning name inner forwards ∧
        ((shelf.get? inner = none ∧ n = .plain (label name)) ∨
          ∃ owned, shelf.get? inner = some owned ∧ n = .owning (label name) forwards owned) := by
  cases s with
  | create other =>
    simp only [step, get?_place] at h
    by_cases hother : other = name
    · subst hother
      exact Or.inr (Or.inl ⟨rfl, by simpa [eq_comm] using h⟩)
    · exact Or.inl (by simpa [hother] using h)
  | createOwning other inner forwards =>
    cases hinner : shelf.get? inner with
    | none =>
      simp only [step, hinner, get?_place] at h
      by_cases hother : other = name
      · subst hother
        exact Or.inr (Or.inr ⟨inner, forwards, rfl, Or.inl ⟨hinner, by simpa [eq_comm] using h⟩⟩)
      · exact Or.inl (by simpa [hother] using h)
    | some owned =>
      simp only [step, hinner, get?_place] at h
      by_cases hother : other = name
      · subst hother
        exact Or.inr (Or.inr ⟨inner, forwards, rfl,
          Or.inr ⟨owned, hinner, by simpa [eq_comm] using h⟩⟩)
      · exact Or.inl (Keyed.get?_of_get?_remove (by simpa [hother] using h))
  | notify | drop | defuse => exact Or.inl (get?_of_get?_take h)
  | createGuard | dropGuard => exact Or.inl h

theorem acked_step {s : Desk.Step} {x : α} :
    (x, .acked) ∈ (shelf.step label s).2 ↔
      ∃ name n, s = .notify name .acked ∧ shelf.get? name = some n ∧
        (x, .acked) ∈ n.notify .acked := by
  cases s with
  | create name => simpa [step] using acked_notmem_place shelf name _ x
  | createOwning name inner forwards =>
    cases hinner : shelf.get? inner with
    | none => simpa [step, hinner] using acked_notmem_place shelf name _ x
    | some n => simpa [step, hinner] using acked_notmem_place (shelf.remove inner) name _ x
  | notify name d =>
    cases d with
    | acked =>
      simp only [step, take]
      cases hget : shelf.get? name <;> simp [hget]
    | lost =>
      have hlost : (x, Delivery.acked) ∉ (shelf.take name (·.notify .lost)).2 :=
        acked_notmem_take (fun n => n.acked_notmem_drop x) name
      simpa [step] using hlost
  | drop name => simpa [step] using acked_notmem_take (fun n => n.acked_notmem_drop x) name
  | defuse name => simpa [step] using acked_notmem_take (fun n => n.acked_notmem_defuse x) name
  | createGuard name | dropGuard name => simp [step]

theorem Sorted.step (h : shelf.Sorted) (s : Desk.Step) : (shelf.step label s).1.Sorted := by
  cases s with
  | create name => exact h.put name _
  | createOwning name inner forwards =>
    simp only [Shelf.step]
    cases shelf.get? inner with
    | none => exact h.put name _
    | some n => exact (h.remove inner).put name _
  | notify name | drop name | defuse name => exact Sorted.take h name _
  | createGuard name | dropGuard name => exact h

/-- The label of the notifier that a step defuses: its callback alone never runs. -/
def defused? (shelf : Shelf α) : Desk.Step → Option α
  | .defuse name => (shelf.get? name).map Notifier.label
  | .create _ | .createOwning .. | .notify .. | .drop _ | .createGuard _ | .dropGuard _ => none

/-- No step loses a label or doubles one: it adds that of the notifier it creates, and tells those
that it takes away, but that of a notifier it defuses. -/
theorem perm_step (h : shelf.Sorted) (s : Desk.Step) :
    ((shelf.defused? s).toList ++
        ((shelf.step label s).2.map Prod.fst ++ labels (shelf.step label s).1)).Perm
      (shelf.labels ++ (s.created?.map label).toList) := by
  cases s with
  | create name => exact perm_place h name (.plain (label name))
  | createOwning name inner forwards =>
    simp only [step, defused?, Option.toList_none, List.nil_append, Desk.Step.created?,
      Option.map_some, Option.toList_some]
    cases hinner : shelf.get? inner with
    | none => exact perm_place h name (.plain (label name))
    | some owned =>
      have hplace := perm_place (Keyed.Sorted.remove h inner) name
        (.owning (label name) forwards owned)
      have hmoved : (labels (shelf.remove inner) ++ owned.labels).Perm shelf.labels :=
        List.perm_append_comm.trans (labels_remove h hinner).symm
      refine hplace.trans ?_
      show (labels (shelf.remove inner) ++ (label name :: owned.labels)).Perm _
      refine List.perm_middle.trans ?_
      exact (hmoved.cons _).trans (List.perm_append_singleton _ _).symm
  | notify name d =>
    simpa [step, defused?, Desk.Step.created?] using perm_take h name fun n => n.map_fst_notify d
  | drop name =>
    simpa [step, defused?, Desk.Step.created?] using perm_take h name Notifier.map_fst_drop
  | defuse name =>
    simp only [step, defused?, take, Desk.Step.created?, Option.map_none, Option.toList_none,
      List.append_nil]
    cases hget : shelf.get? name with
    | none => exact List.Perm.refl _
    | some n =>
      have hlabels := labels_remove h hget
      rw [Notifier.map_fst_defuse] at hlabels
      exact hlabels.symm
  | createGuard name | dropGuard name => simp [step, defused?, Desk.Step.created?]

end Shelf

end MediaMux
