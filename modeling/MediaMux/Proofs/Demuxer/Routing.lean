import MediaMux.Demuxer
import MediaMux.Proofs.VarInt.RoundTrip

/-!
# Routing framed packets

No two ids share a channel (`Reachable.sound`), so a packet that a flow framed changes nothing but
the channel of that flow's id (`delivered_route`). Routing packets one after the other then puts the
payloads of each id into its channel, in the order of the packets (`delivered_routeAll`).
-/

namespace MediaMux

theorem unframe_encode_append (v : VarInt) (payload : Bytes) :
    unframe (v.encode ++ payload) = .ok (v.value, payload) := by
  rw [unframe, VarInt.decode?_encode_append]

namespace Demuxer

/-! ### What can be done to a demultiplexer -/

/-- Something that is done to a demultiplexer or to one of its receivers. -/
inductive Operation
  | subscribe (id : Nat)
  | unsubscribe (id : Nat)
  | route (packet : Bytes)
  | receive (place : Nat)
  | close (place : Nat)
  | dropReceiver (place : Nat)
deriving DecidableEq

/-- The demultiplexer after an operation. -/
def apply (d : Demuxer) : Operation → Demuxer
  | .subscribe id => (d.subscribe id).1
  | .unsubscribe id => (d.unsubscribe id).1
  | .route packet => (d.route packet).1
  | .receive place => (d.receive place).1
  | .close place => d.close place
  | .dropReceiver place => d.dropReceiver place

/-- A demultiplexer that operations lead to from an empty one. -/
def Reachable (d : Demuxer) : Prop := ∃ operations, List.foldl apply {} operations = d

/-- No two ids share a channel, and each that is routed has one. -/
structure Sound (d : Demuxer) : Prop where
  unshared : ∀ {id other place}, d.routes.get? id = some place →
    d.routes.get? other = some place → id = other
  placed : ∀ {id place}, d.routes.get? id = some place → place < d.channels.length

variable {d : Demuxer}

theorem Sound.of_same (h : d.Sound) {channels : List Channel}
    (hlength : channels.length = d.channels.length) :
    Sound { d with channels := channels } where
  unshared := h.unshared
  placed hid := by
    show _ < channels.length
    rw [hlength]
    exact h.placed hid

theorem Sound.remove (h : d.Sound) (id : Nat) :
    Sound { d with routes := d.routes.remove id } := by
  exact ⟨fun hid hother => h.unshared (Keyed.get?_of_get?_remove hid)
    (Keyed.get?_of_get?_remove hother), fun hid => h.placed (Keyed.get?_of_get?_remove hid)⟩

theorem Sound.subscribe (h : d.Sound) (id : Nat) : Sound (d.subscribe id).1 := by
  have hlength : (d.subscribe id).1.channels.length = d.channels.length + 1 := by
    simp [Demuxer.subscribe]
  -- the new channel has a place that no id had before
  have hcases : ∀ {other place}, (d.subscribe id).1.routes.get? other = some place →
      (id = other ∧ place = d.channels.length) ∨
        (d.routes.get? other = some place ∧ place < d.channels.length) := by
    intro other place hother
    rw [Demuxer.subscribe] at hother
    simp only [Keyed.get?_put] at hother
    by_cases heq : id = other
    · rw [if_pos heq] at hother
      exact Or.inl ⟨heq, (Option.some.inj hother).symm⟩
    · rw [if_neg heq] at hother
      exact Or.inr ⟨hother, h.placed hother⟩
  constructor
  · intro one other place hone hother
    rcases hcases hone with ⟨rfl, rfl⟩ | ⟨hone, hlt⟩
    · rcases hcases hother with ⟨heq, -⟩ | ⟨-, hlt⟩
      · exact heq
      · omega
    · rcases hcases hother with ⟨-, rfl⟩ | ⟨hother, -⟩
      · omega
      · exact h.unshared hone hother
  · intro other place hother
    rw [hlength]
    rcases hcases hother with ⟨-, rfl⟩ | ⟨-, hlt⟩ <;> omega

theorem Sound.route (h : d.Sound) (packet : Bytes) : Sound (d.route packet).1 := by
  unfold Demuxer.route
  split
  · exact h
  · split
    · exact h.of_same (List.length_set ..)
    · exact h.remove _

theorem Sound.apply (h : d.Sound) (o : Operation) : Sound (d.apply o) := by
  cases o with
  | subscribe id => exact h.subscribe id
  | unsubscribe id => exact h.remove id
  | route packet => exact h.route packet
  | receive place =>
    show Sound (d.receive place).1
    unfold Demuxer.receive
    split
    · exact h.of_same (List.length_set ..)
    · exact h
  | close place => exact h.of_same (List.length_modify ..)
  | dropReceiver place => exact h.of_same (List.length_modify ..)

theorem Reachable.sound (h : d.Reachable) : d.Sound := by
  obtain ⟨operations, rfl⟩ := h
  have hrun : ∀ d : Demuxer, d.Sound → Sound (operations.foldl Demuxer.apply d) := by
    induction operations with
    | nil => exact fun _ hd => hd
    | cons o rest ih => exact fun d hd => ih _ (hd.apply o)
  have hempty : Sound {} := ⟨fun hid => by simp at hid, fun hid => by simp at hid⟩
  exact hrun {} hempty

/-! ### One packet -/

theorem channel?_eq_some {id place : Nat} {c : Channel} :
    d.channel? id = some (place, c) ↔
      d.routes.get? id = some place ∧ d.channels[place]? = some c ∧ c.isOpen = true := by
  unfold channel?
  simp only [Option.bind_eq_bind, Option.bind_eq_some_iff]
  constructor
  · rintro ⟨_, hroute, c', hchannel, h⟩
    by_cases hopen : c'.isOpen = true
    · rw [if_pos hopen] at h
      cases h
      exact ⟨hroute, hchannel, hopen⟩
    · rw [if_neg hopen] at h
      cases h
  · rintro ⟨hroute, hchannel, hopen⟩
    exact ⟨place, hroute, c, hchannel, if_pos hopen⟩

end Demuxer

/-- The channel with these payloads behind those that wait. -/
def Channel.push (c : Channel) (payloads : List Bytes) : Channel :=
  { c with queue := c.queue ++ payloads }

namespace Demuxer

variable {d : Demuxer} {v : VarInt} {place : Nat} {c : Channel}

theorem route_encode_append (h : d.channel? v.value = some (place, c)) (payload : Bytes) :
    d.route (v.encode ++ payload) =
      ({ d with channels := d.channels.set place (c.push [payload]) }, .ok v.value) := by
  rw [route, unframe_encode_append]
  simp only [h]
  rfl

/-- The payloads of the packets with an id, in order. -/
def payloadsOf (id : Nat) (packets : List (VarInt × Bytes)) : List Bytes :=
  (packets.filter fun x => x.1.value = id).map Prod.snd

/-- What routing packets of open channels leads to. -/
structure Delivered (d : Demuxer) (packets : List (VarInt × Bytes)) (d' : Demuxer) : Prop where
  routes : d'.routes = d.routes
  received : ∀ {id place c}, d.channel? id = some (place, c) →
    d'.channel? id = some (place, c.push (payloadsOf id packets))
  untouched : ∀ {place}, (∀ x ∈ packets, d.routes.get? x.1.value ≠ some place) →
    d'.channels[place]? = d.channels[place]?

theorem delivered_route (hd : d.Sound) (h : d.channel? v.value = some (place, c))
    (payload : Bytes) : d.Delivered [(v, payload)] (d.route (v.encode ++ payload)).1 := by
  obtain ⟨hroute, hchannel, hopen⟩ := channel?_eq_some.mp h
  rw [route_encode_append h]
  refine ⟨rfl, ?_, ?_⟩
  · intro id other c' hother
    obtain ⟨hid, hc', hopen'⟩ := channel?_eq_some.mp hother
    by_cases hsame : v.value = id
    · subst hsame
      cases hroute.symm.trans hid
      cases hchannel.symm.trans hc'
      refine channel?_eq_some.mpr ⟨hroute, ?_, hopen⟩
      simp [payloadsOf, List.getElem?_set_self (hd.placed hroute)]
    · -- another id has another channel
      have hne : place ≠ other := fun heq => hsame (hd.unshared hroute (heq ▸ hid))
      refine channel?_eq_some.mpr ⟨hid, ?_, hopen'⟩
      simp [payloadsOf, hsame, Channel.push, List.getElem?_set_ne hne, hc']
  · intro other hother
    have hne : place ≠ other := by
      rintro rfl
      exact hother (v, payload) (List.mem_singleton_self _) hroute
    exact List.getElem?_set_ne hne

theorem Delivered.cons {x : VarInt × Bytes} {rest : List (VarInt × Bytes)} {d' last : Demuxer}
    (hfirst : d.Delivered [x] d') (hrest : d'.Delivered rest last) :
    d.Delivered (x :: rest) last where
  routes := hrest.routes.trans hfirst.routes
  received h := by
    have hlast := hrest.received (hfirst.received h)
    rw [hlast]
    simp only [Channel.push, payloadsOf, List.append_assoc, ← List.map_append,
      ← List.filter_append, List.singleton_append]
  untouched h := by
    have hhere := hfirst.untouched fun y hy => h y (by simp_all)
    refine (hrest.untouched fun y hy => ?_).trans hhere
    rw [hfirst.routes]
    exact h y (List.mem_cons_of_mem _ hy)

/-! ### Packets in a row -/

/-- Packets whose ids have open channels are all delivered, each to the channel of its id. -/
theorem delivered_routeAll (hd : d.Sound) (packets : List (VarInt × Bytes))
    (hopen : ∀ x ∈ packets, (d.channel? x.1.value).isSome) :
    d.Delivered packets (d.routeAll (packets.map fun x => x.1.encode ++ x.2)).1 ∧
      (d.routeAll (packets.map fun x => x.1.encode ++ x.2)).2 =
        packets.map fun x => .ok x.1.value := by
  induction packets generalizing d with
  | nil =>
    refine ⟨⟨rfl, fun {id place c} h => ?_, fun _ => rfl⟩, rfl⟩
    have hpush : c.push (payloadsOf id []) = c := by simp [payloadsOf, Channel.push]
    rw [hpush]
    exact h
  | cons x rest ih =>
    obtain ⟨v, payload⟩ := x
    obtain ⟨⟨place, c⟩, hc⟩ := Option.isSome_iff_exists.mp (hopen (v, payload) List.mem_cons_self)
    have hfirst := delivered_route hd hc payload
    have houtcome : (d.route (v.encode ++ payload)).2 = .ok v.value := by
      rw [route_encode_append hc]
    have hlater : ∀ x ∈ rest, ((d.route (v.encode ++ payload)).1.channel? x.1.value).isSome := by
      intro y hy
      obtain ⟨⟨place', c'⟩, hc'⟩ :=
        Option.isSome_iff_exists.mp (hopen y (List.mem_cons_of_mem _ hy))
      rw [hfirst.received hc']
      rfl
    obtain ⟨hrest, houtcomes⟩ := ih (hd.route _) hlater
    refine ⟨hfirst.cons hrest, ?_⟩
    rw [List.map_cons, List.map_cons, ← houtcomes, ← houtcome]
    rfl

end Demuxer

end MediaMux
