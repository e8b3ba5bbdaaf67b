import MediaMux.Proofs.Session.Projection

/-!
# Writes and their resolutions

A write leaves its notifier in a slot of its own or has it resolved at once, so a resolution belongs
to one write (`Resolved.write_unique`), and a slot is emptied once, so a write has one resolution
(`Resolved.unique`). Every notifier that waits was left by a write (`World.exists_write`).
-/

namespace MediaMux

open Feedback

/-! ### Slots along a run -/

/-- Slots that were there before are still there, as they were or emptied. -/
structure SlotsKept (before after : List (Option Watcher)) : Prop where
  length_le : before.length ≤ after.length
  kept : ∀ i < before.length,
    (after[i]?).join = (before[i]?).join ∨ (after[i]?).join = none

namespace SlotsKept

variable {xs ys zs : List (Option Watcher)}

theorem refl (xs : List (Option Watcher)) : SlotsKept xs xs := ⟨Nat.le_refl _, fun _ _ => .inl rfl⟩

theorem trans (h : SlotsKept xs ys) (h' : SlotsKept ys zs) : SlotsKept xs zs := by
  refine ⟨Nat.le_trans h.length_le h'.length_le, ?_⟩
  intro i hi
  rcases h'.kept i (Nat.lt_of_lt_of_le hi h.length_le) with hsame | hnone
  · rw [hsame]
    exact h.kept i hi
  · exact .inr hnone

theorem append (xs ys : List (Option Watcher)) : SlotsKept xs (xs ++ ys) := by
  refine ⟨by simp, fun i hi => .inl ?_⟩
  rw [List.getElem?_append_left hi]

theorem set_none (xs : List (Option Watcher)) (i : Nat) : SlotsKept xs (xs.set i none) := by
  refine ⟨by simp, ?_⟩
  intro j hj
  rw [List.getElem?_set]
  by_cases h : i = j
  · simp [h, hj]
  · simp [h]

end SlotsKept

theorem Session.SlotChange.kept {s : Session} {c : Call} {q : Nat} {xs : List (Option Watcher)}
    (h : SlotChange s c q xs) : SlotsKept (s.slots q) xs := by
  cases h with
  | same => exact .refl _
  | note | track => exact .append _ _
  | release => exact .set_none _ _

namespace World

variable {w : World} {actions : List Action}

theorem slots_step (w : World) (a : Action) (q : Nat) :
    SlotsKept (w.session.slots q) ((w.step a).session.slots q) := by
  cases a with
  | call c => exact ((w.session.effect_apply c).slots q).kept
  | proceed g =>
    unfold Session.slots
    rw [w.held_proceed g]
    exact .refl _

theorem slots_run (w : World) (actions : List Action) (q : Nat) :
    SlotsKept (w.session.slots q) ((w.run actions).session.slots q) := by
  induction actions generalizing w with
  | nil => exact .refl _
  | cons a rest ih => exact (slots_step w a q).trans (ih (w.step a))

/-- The world before step `i` of a run. -/
def before (w : World) (actions : List Action) (i : Nat) : World := w.run (actions.take i)

theorem before_succ {i : Nat} {a : Action} (h : actions[i]? = some a) :
    w.before actions (i + 1) = (w.before actions i).step a := by
  unfold before
  rw [List.take_add_one, h]
  exact run_concat w _ a

theorem before_succ_of_none {i : Nat} (h : actions[i]? = none) :
    w.before actions (i + 1) = w.before actions i := by
  unfold before
  rw [List.take_add_one, h]
  simp

theorem exists_run_before {i j : Nat} (h : i ≤ j) (w : World) (actions : List Action) :
    ∃ more, w.before actions j = (w.before actions i).run more := by
  have htake : (actions.take j).take i = actions.take i := by
    rw [List.take_take, Nat.min_eq_left h]
  refine ⟨(actions.take j).drop i, ?_⟩
  unfold before
  rw [← run_append, ← htake, List.take_append_drop]

theorem slots_before (w : World) (actions : List Action) {i j : Nat} (h : i ≤ j) (q : Nat) :
    SlotsKept ((w.before actions i).session.slots q) ((w.before actions j).session.slots q) := by
  obtain ⟨more, hmore⟩ := exists_run_before h w actions
  rw [hmore]
  exact slots_run _ more q

/-! ### Writes -/

/-- Step `i` of a run is the tracked write `t`. -/
def TracksAt (w : World) (actions : List Action) (i : Nat) (t : TrackedWrite) : Prop :=
  ∃ c, actions[i]? = some (.call c) ∧ (w.before actions i).session.trackedWrite? c = some t

theorem TracksAt.unique {i : Nat} {t t' : TrackedWrite} (h : TracksAt w actions i t)
    (h' : TracksAt w actions i t') : t = t' := by
  obtain ⟨c, hc, ht⟩ := h
  obtain ⟨c', hc', ht'⟩ := h'
  cases hc.symm.trans hc'
  exact Option.some.inj (ht.symm.trans ht')

theorem TracksAt.slots {i g place slot : Nat} {p : SentPacket}
    (h : TracksAt w actions i ⟨g, p, .kept place slot⟩) :
    ((w.before actions i).session.slots place).length = slot ∧
      ((w.before actions (i + 1)).session.slots place).length = slot + 1 := by
  obtain ⟨c, hc, ht⟩ := h
  obtain ⟨hslot, hslots⟩ := Session.slots_of_trackedWrite? ht
  rw [before_succ hc]
  refine ⟨hslot.symm, ?_⟩
  show (((w.before actions i).session.apply c).slots place).length = slot + 1
  rw [hslots, List.length_append, ← hslot]
  rfl

/-- A slot belongs to one write. -/
theorem TracksAt.write_unique {i j g q place slot : Nat} {p p' : SentPacket}
    (h : TracksAt w actions i ⟨g, p, .kept place slot⟩)
    (h' : TracksAt w actions j ⟨q, p', .kept place slot⟩) : i = j := by
  obtain ⟨hi, hi'⟩ := h.slots
  obtain ⟨hj, hj'⟩ := h'.slots
  rcases Nat.lt_trichotomy i j with hlt | heq | hlt
  · have hle := (slots_before w actions (Nat.succ_le_of_lt hlt) place).length_le
    rw [Nat.succ_eq_add_one, hi', hj] at hle
    omega
  · exact heq
  · have hle := (slots_before w actions (Nat.succ_le_of_lt hlt) place).length_le
    rw [Nat.succ_eq_add_one, hj', hi] at hle
    omega

/-- Every notifier that waits for a reporter was left by a write. -/
theorem exists_write (hw : Initial w) {j place slot g : Nat} {p : SentPacket}
    (h : (w.before actions j).session.waiting? place slot = some (.tracked g p)) :
    ∃ i < j, TracksAt w actions i ⟨g, p, .kept place slot⟩ := by
  induction j with
  | zero =>
    obtain ⟨-, htransports, -, -⟩ := hw.empty
    simp [before, run, Session.waiting?, htransports] at h
  | succ j ih =>
    have hearlier : (w.before actions j).session.waiting? place slot = some (.tracked g p) →
        ∃ i < j + 1, TracksAt w actions i ⟨g, p, .kept place slot⟩ := by
      intro hbefore
      obtain ⟨i, hi, ht⟩ := ih hbefore
      exact ⟨i, Nat.lt_succ_of_lt hi, ht⟩
    cases ha : actions[j]? with
    | none =>
      rw [before_succ_of_none ha] at h
      exact hearlier h
    | some a =>
      rw [before_succ ha] at h
      cases a with
      | proceed q =>
        rw [Session.waiting?_eq, Session.slots, held_proceed, ← Session.slots,
          ← Session.waiting?_eq] at h
        exact hearlier h
      | call c =>
        rcases Session.waiting?_apply h with hbefore | hw
        · exact hearlier hbefore
        · exact ⟨j, Nat.lt_succ_self j, c, ha, hw⟩

/-! ### Resolutions -/

/-- Step `m` of a run resolves, with `d` and at the time `now`, the notifier of the write that is
step `i`. -/
inductive Resolved (w : World) (actions : List Action) (i : Nat) : Nat → Delivery → Nat → Prop
  | atOnce {g : Nat} {p : SentPacket} {d : Delivery}
      (ht : TracksAt w actions i ⟨g, p, .told d⟩) :
      Resolved w actions i i d (w.before actions i).session.env.now.2.now.1
  | later {g : Nat} {p : SentPacket} {place slot m : Nat} {d : Delivery}
      (ht : TracksAt w actions i ⟨g, p, .kept place slot⟩)
      (hm : actions[m]? = some (.call (.resolve place slot d)))
      (hwaited : ((w.before actions m).session.resolve place slot d).2 = true) :
      Resolved w actions i m d (w.before actions m).session.env.now.1

theorem resolve_waited {s : Session} {place slot : Nat} {d : Delivery}
    (h : (s.resolve place slot d).2 = true) :
    ∃ x, s.waiting? place slot = some x ∧ slot < (s.slots place).length := by
  rw [Session.resolve_snd] at h
  obtain ⟨x, hx⟩ := Option.isSome_iff_exists.mp h
  refine ⟨x, hx, ?_⟩
  rw [Session.waiting?_eq] at hx
  exact (List.getElem?_eq_some_iff.mp (Option.join_eq_some_iff.mp hx)).1

/-- A resolution is not earlier than the write. -/
theorem Resolved.le {i m now : Nat} {d : Delivery} (h : Resolved w actions i m d now) : i ≤ m := by
  cases h with
  | atOnce => exact Nat.le_refl i
  | @later g p place slot m d ht hm hwaited =>
    obtain ⟨x, -, hlt⟩ := resolve_waited hwaited
    refine Nat.le_of_not_lt ?_
    intro hlater
    have hle := (slots_before w actions (Nat.le_of_lt hlater) place).length_le
    rw [ht.slots.1] at hle
    exact absurd hlt (Nat.not_lt.mpr hle)

/-- A slot that was emptied stays empty. -/
theorem resolve_once {place slot m m' : Nat} {d d' : Delivery}
    (hm : actions[m]? = some (.call (.resolve place slot d)))
    (hwaited : ((w.before actions m).session.resolve place slot d).2 = true)
    (hwaited' : ((w.before actions m').session.resolve place slot d').2 = true) : m' ≤ m := by
  refine Nat.le_of_not_lt ?_
  intro hlater
  obtain ⟨x, hx, hlt⟩ := resolve_waited hwaited
  obtain ⟨x', hx', -⟩ := resolve_waited hwaited'
  have hafter : (w.before actions (m + 1)).session.slots place =
      ((w.before actions m).session.slots place).set slot none := by
    rw [before_succ hm]
    exact Session.slots_of_resolve hx
  have hkept := slots_before w actions (Nat.succ_le_of_lt hlater) place
  rw [Nat.succ_eq_add_one, hafter] at hkept
  rw [Session.waiting?_eq] at hx'
  rcases hkept.kept slot (by simpa using hlt) with hsame | hnone
  · simp [hx', hlt] at hsame
  · simp [hx'] at hnone

/-- A write has one resolution. -/
theorem Resolved.unique {i m m' now now' : Nat} {d d' : Delivery}
    (h : Resolved w actions i m d now) (h' : Resolved w actions i m' d' now') :
    m' = m ∧ d' = d ∧ now' = now := by
  cases h with
  | atOnce ht =>
    cases h' with
    | atOnce ht' =>
      cases ht.unique ht'
      exact ⟨rfl, rfl, rfl⟩
    | later ht' => cases ht.unique ht'
  | later ht hm hwaited =>
    cases h' with
    | atOnce ht' => cases ht.unique ht'
    | later ht' hm' hwaited' =>
      cases ht.unique ht'
      cases Nat.le_antisymm (resolve_once hm hwaited hwaited') (resolve_once hm' hwaited' hwaited)
      cases hm.symm.trans hm'
      exact ⟨rfl, rfl, rfl⟩

/-- A resolution is that of one write. -/
theorem Resolved.write_unique {i j m now now' : Nat} {d d' : Delivery}
    (h : Resolved w actions i m d now) (h' : Resolved w actions j m d' now') : i = j := by
  cases h with
  | atOnce ht =>
    cases h' with
    | atOnce => rfl
    | later _ hm' =>
      obtain ⟨c, hc, ht⟩ := ht
      cases hc.symm.trans hm'
      cases ht
  | later ht hm =>
    cases h' with
    | atOnce ht' =>
      obtain ⟨c, hc, ht'⟩ := ht'
      cases hc.symm.trans hm
      cases ht'
    | later ht' hm' =>
      cases hm.symm.trans hm'
      exact ht.write_unique ht'

end World

end MediaMux
