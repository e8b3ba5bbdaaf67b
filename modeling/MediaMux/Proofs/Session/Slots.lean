import MediaMux.Proofs.Session.Effect

/-!
# Slots for notifiers

A transport has a slot for every buffer that it took with a notifier. Slots are never taken away,
and a notifier is put into a new one only and taken out once (`Effect.slots`).
-/

namespace MediaMux

open Feedback

namespace Session

/-- The slots of the transport at `place`. -/
def slots (s : Session) (place : Nat) : List (Option Watcher) := (s.held[place]?).getD []

variable {s s' : Session}

theorem slots_of_transport {place : Nat} {t : Transport Watcher}
    (ht : s.transports[place]? = some t) : s.slots place = t.held := by
  simp [slots, held, ht]

theorem waiting?_eq (s : Session) (place slot : Nat) :
    s.waiting? place slot = ((s.slots place)[slot]?).join := by
  unfold waiting? slots held
  rw [List.getElem?_map]
  cases s.transports[place]? <;> simp [Transport.heldAt?]

theorem Quiet.slots (h : Quiet s s') (place : Nat) : s'.slots place = s.slots place := by
  obtain ⟨n, hn⟩ := h.held
  unfold Session.slots
  rw [hn, List.getElem?_append]
  split
  · rfl
  · next hle =>
    rw [List.getElem?_eq_none (Nat.not_lt.mp hle), List.getElem?_replicate]
    split <;> rfl

theorem slots_modify {f : Transport Watcher → Transport Watcher}
    {g : List (Option Watcher) → List (Option Watcher)} (h : ∀ t, (f t).held = g t.held)
    {place : Nat} (hplace : place < s.transports.length) (q : Nat) :
    (s.modifyTransport place f).slots q = if place = q then g (s.slots q) else s.slots q := by
  have hheld : (s.modifyTransport place f).held = s.held.modify place g :=
    held_modify h s.transports place
  unfold slots
  rw [hheld, List.getElem?_modify]
  split
  · next hq =>
    subst hq
    simp [held, hplace]
  · simp

theorem slots_keep {place : Nat} (hplace : place < s.transports.length) (w : Watcher) (q : Nat) :
    (s.keep place w).slots q = if place = q then s.slots q ++ [some w] else s.slots q :=
  slots_modify (g := (· ++ [some w])) (fun _ => rfl) hplace q

theorem place_lt_of_waiting? {place i : Nat} {w : Watcher} (h : s.waiting? place i = some w) :
    place < s.transports.length := by
  unfold waiting? at h
  obtain ⟨t, ht, -⟩ := Option.bind_eq_some_iff.mp h
  exact (List.getElem?_eq_some_iff.mp ht).1

theorem slots_release {place i : Nat} {w : Watcher} (h : s.waiting? place i = some w) (q : Nat) :
    (s.modifyTransport place (·.release i)).slots q =
      if place = q then (s.slots q).set i none else s.slots q :=
  slots_modify (g := (·.set i none)) (fun _ => rfl) (place_lt_of_waiting? h) q

theorem slots_inform (s : Session) (w : Watcher) (d : Delivery) (place : Nat) :
    (s.inform w d).slots place = s.slots place := by
  simp [slots, held]

/-! ### The slots after a call -/

/-- What a call does to the slots of the transport at `q`. -/
inductive SlotChange (s : Session) (c : Call) (q : Nat) : List (Option Watcher) → Prop
  | same : SlotChange s c q (s.slots q)
  | note {tag : String} : SlotChange s c q (s.slots q ++ [some (.noted tag)])
  | track {g : Nat} {p : SentPacket}
      (hw : s.trackedWrite? c = some ⟨g, p, .kept q (s.slots q).length⟩) :
      SlotChange s c q (s.slots q ++ [some (.tracked g p)])
  | release {i : Nat} {d : Delivery} {w : Watcher} (hc : c = .resolve q i d)
      (hw : s.waiting? q i = some w) : SlotChange s c q ((s.slots q).set i none)

theorem Effect.slots {c : Call} (h : Effect s c s') (q : Nat) : SlotChange s c q (s'.slots q) := by
  cases h with
  | quiet hw h => exact h.slots q ▸ .same
  | @note f payload tag place _ hplace h =>
    rw [h.slots, slots_keep hplace]
    split
    · exact .note
    · exact .same
  | @track header payload g p place t _ hg hw ht h =>
    have hplace : place < s.transports.length := (List.getElem?_eq_some_iff.mp ht).1
    have hkeep := slots_keep (s := s.handOver g p) hplace (.tracked g p) q
    rw [h.slots, hkeep]
    split
    · next hq =>
      subst hq
      exact .track (by rw [hw, slots_of_transport ht])
    · exact .same
  | @tell header payload g p d _ hg hw h =>
    rw [h.slots, slots_inform]
    exact .same
  | @resolve place i d w hw =>
    rw [slots_inform, slots_release hw]
    split
    · next hq =>
      subst hq
      exact .release rfl hw
    · exact .same
  | stop hw hg h =>
    rw [h.slots]
    exact .same
  | start hheld =>
    unfold Session.slots
    rw [hheld]
    exact .same

/-- A tracked write whose notifier is kept adds a slot for it. -/
theorem slots_of_trackedWrite? {c : Call} {g place slot : Nat} {p : SentPacket}
    (h : s.trackedWrite? c = some ⟨g, p, .kept place slot⟩) :
    slot = (s.slots place).length ∧
      (s.apply c).slots place = s.slots place ++ [some (.tracked g p)] := by
  have heffect := s.effect_apply c
  generalize s.apply c = s' at heffect ⊢
  cases heffect with
  | quiet hw | stop hw => cases hw.symm.trans h
  | note | resolve | start => cases h
  | tell hg hw => cases hw.symm.trans h
  | @track header payload q p' place' t _ hg hw ht hquiet =>
    cases hw.symm.trans h
    have hplace : place < (s.handOver g p).transports.length := (List.getElem?_eq_some_iff.mp ht).1
    have hkeep := slots_keep hplace (.tracked g p) place
    rw [if_pos rfl] at hkeep
    exact ⟨by rw [slots_of_transport ht], (hquiet.slots place).trans hkeep⟩

theorem getElem?_concat_cases {α : Type} {xs : List α} {x y : α} {i : Nat}
    (h : (xs ++ [x])[i]? = some y) : xs[i]? = some y ∨ i = xs.length ∧ x = y := by
  rcases Nat.lt_trichotomy i xs.length with hlt | heq | hgt
  · rw [List.getElem?_append_left hlt] at h
    exact .inl h
  · subst heq
    rw [List.getElem?_concat_length] at h
    exact .inr ⟨rfl, Option.some.inj h⟩
  · rw [List.getElem?_eq_none (by simp; omega)] at h
    cases h

/-- A notifier that waits after a call waited before it, or the call left it. -/
theorem waiting?_apply {c : Call} {g place slot : Nat} {p : SentPacket}
    (h : (s.apply c).waiting? place slot = some (.tracked g p)) :
    s.waiting? place slot = some (.tracked g p) ∨
      s.trackedWrite? c = some ⟨g, p, .kept place slot⟩ := by
  have hslots := (s.effect_apply c).slots place
  rw [waiting?_eq, Option.join_eq_some_iff] at h ⊢
  generalize (s.apply c).slots place = slots at hslots h
  cases hslots with
  | same => exact .inl h
  | note =>
    rcases getElem?_concat_cases h with hbefore | ⟨-, hnew⟩
    · exact .inl hbefore
    · cases hnew
  | track hw =>
    rcases getElem?_concat_cases h with hbefore | ⟨hslot, hnew⟩
    · exact .inl hbefore
    · cases hnew
      exact .inr (hslot ▸ hw)
  | release hc hw =>
    rw [List.getElem?_set] at h
    split at h
    · split at h <;> cases h
    · exact .inl h

theorem resolve_snd (s : Session) (place i : Nat) (d : Delivery) :
    (s.resolve place i d).2 = (s.waiting? place i).isSome := by
  unfold resolve waiting?
  split
  · next h => rw [h]; rfl
  · next h => rw [h]; rfl

/-- A resolution empties the slot. -/
theorem slots_of_resolve {place i : Nat} {d : Delivery} {w : Watcher}
    (h : s.waiting? place i = some w) :
    (s.apply (.resolve place i d)).slots place = (s.slots place).set i none := by
  have hresolve : s.apply (.resolve place i d) =
      (s.modifyTransport place (·.release i)).inform w d := by
    have h' : (s.transports[place]?).bind (·.heldAt? i) = some w := h
    simp [apply, resolve, h']
  rw [hresolve, slots_inform, slots_release h, if_pos rfl]

end Session

end MediaMux
