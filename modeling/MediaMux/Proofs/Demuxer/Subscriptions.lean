import Mathlib.Data.List.Induction
import MediaMux.Proofs.Demuxer.Routing

/-!
# What receivers get over a run

What a demultiplexer does is settled by what was done to it before. An id leads to the receiver of
its latest subscription, until the subscription or the receiver ends (`live?_after`), and the
receiver gets the payloads of the packets that come meanwhile with this id, in order
(`received_after`). Nothing that is done to one id shows at another (`undisturbed`).
-/

namespace MediaMux

namespace Demuxer

/-! ### Histories -/

def after (history : List Operation) : Demuxer := history.foldl apply {}

/-- The ids that were subscribed to, in the order of the receivers that this made. -/
def subscriptions (history : List Operation) : List Nat :=
  history.filterMap fun
    | .subscribe id => some id
    | _ => none

/-- Whether the operation ends the subscription of the receiver at `place` to `id`, or the
receiver. -/
def Operation.ends (id place : Nat) : Operation → Bool
  | .subscribe other | .unsubscribe other => other = id
  | .close other | .dropReceiver other => other = place
  | .route _ | .receive _ => false

/-- The payload of a packet of the flow `id`. -/
def Operation.payload? (id : Nat) : Operation → Option Bytes
  | .route packet => ((VarInt.decode? packet).filter fun x => x.1.value = id).map Prod.snd
  | _ => none

/-- The receiver at `place` is that of the latest subscription to `id`, and neither has ended. -/
def InForce (history : List Operation) (id place : Nat) : Prop :=
  ∃ before later, history = before ++ .subscribe id :: later ∧
    (subscriptions before).length = place ∧ ∀ o ∈ later, o.ends id place = false

def takes (d : Demuxer) (place : Nat) : Operation → List Bytes
  | .receive other => if other = place then (d.receive place).2 else []
  | _ => []

/-- What is taken from the receiver at `place` in a run. -/
def taken (place : Nat) (d : Demuxer) : List Operation → List Bytes
  | [] => []
  | o :: rest => d.takes place o ++ taken place (d.apply o) rest

/-- The payloads for the receiver at `place`, of what was done after its subscription to `id`. -/
def heard (id place : Nat) (later : List Operation) : List Bytes :=
  (later.takeWhile fun o => !o.ends id place).filterMap (·.payload? id)

def Operation.id? (history : List Operation) : Operation → Option Nat
  | .subscribe id | .unsubscribe id => some id
  | .route packet => (VarInt.decode? packet).map (·.1.value)
  | .receive place | .close place | .dropReceiver place => (subscriptions history)[place]?

theorem after_concat (history : List Operation) (o : Operation) :
    after (history ++ [o]) = (after history).apply o := by
  simp [after]

theorem sound_after (history : List Operation) : (after history).Sound :=
  Reachable.sound ⟨history, rfl⟩

theorem subscriptions_append (history later : List Operation) :
    subscriptions (history ++ later) = subscriptions history ++ subscriptions later :=
  List.filterMap_append

theorem subscriptions_subscribe (id : Nat) (later : List Operation) :
    subscriptions (.subscribe id :: later) = id :: subscriptions later := rfl

/-! ### Single operations -/

variable {d : Demuxer}

/-- What routing a packet does. -/
inductive Routed (d : Demuxer) (packet : Bytes) : Demuxer × Except FlowError Nat → Prop
  | malformed (h : VarInt.decode? packet = none) : Routed d packet (d, .error .malformedId)
  | delivered {v : VarInt} {payload : Bytes} {place : Nat} {c : Channel}
      (h : VarInt.decode? packet = some (v, payload))
      (hc : d.channel? v.value = some (place, c)) :
      Routed d packet
        ({ d with channels := d.channels.set place (c.push [payload]) }, .ok v.value)
  | unknown {v : VarInt} {payload : Bytes} (h : VarInt.decode? packet = some (v, payload))
      (hc : d.channel? v.value = none) :
      Routed d packet
        ({ d with routes := d.routes.remove v.value }, .error (.unknownId v.value))

theorem routed_route (d : Demuxer) (packet : Bytes) : Routed d packet (d.route packet) := by
  unfold route unframe
  cases h : VarInt.decode? packet with
  | none => exact .malformed h
  | some x =>
    obtain ⟨v, payload⟩ := x
    dsimp only
    cases hc : d.channel? v.value with
    | none => exact .unknown h hc
    | some target =>
      obtain ⟨place, c⟩ := target
      exact .delivered h hc

/-- The place of the receiver that packets of the flow `id` go to. -/
def live? (d : Demuxer) (id : Nat) : Option Nat := (d.channel? id).map Prod.fst

theorem live?_eq_some {id place : Nat} :
    d.live? id = some place ↔
      d.routes.get? id = some place ∧ ∃ c, d.channels[place]? = some c ∧ c.isOpen = true := by
  unfold live?
  constructor
  · intro h
    obtain ⟨⟨q, c⟩, hc, rfl⟩ := Option.map_eq_some_iff.mp h
    obtain ⟨hroute, hchannel, hopen⟩ := channel?_eq_some.mp hc
    exact ⟨hroute, c, hchannel, hopen⟩
  · rintro ⟨hroute, c, hchannel, hopen⟩
    rw [channel?_eq_some.mpr ⟨hroute, hchannel, hopen⟩]
    rfl

theorem live?_eq_none {id : Nat} : d.live? id = none ↔ d.channel? id = none :=
  Option.map_eq_none_iff

/-- What an operation does to a channel. -/
theorem getElem?_apply {place : Nat} {c : Channel} (hc : d.channels[place]? = some c)
    (o : Operation) :
    (d.apply o).channels[place]? =
      some (match o with
        | .subscribe _ | .unsubscribe _ => c
        | .route packet =>
          match VarInt.decode? packet with
          | some (v, payload) => if d.live? v.value = some place then c.push [payload] else c
          | none => c
        | .receive other => if other = place then { c with queue := [] } else c
        | .close other => if other = place then { c with isOpen := false } else c
        | .dropReceiver other => if other = place then { isOpen := false } else c) := by
  obtain ⟨hlt, hget⟩ := List.getElem?_eq_some_iff.mp hc
  cases o with
  | subscribe id => exact (List.getElem?_append_left hlt).trans hc
  | unsubscribe id => exact hc
  | route packet =>
    show (d.route packet).1.channels[place]? = _
    have hrouted := d.routed_route packet
    generalize d.route packet = routed at hrouted ⊢
    cases hrouted with
    | malformed h => simp [h, hc]
    | unknown h hnone =>
      have hlive := live?_eq_none.mpr hnone
      simp [h, hlive, hc]
    | @delivered v payload other c' h hsome =>
      have hlive : d.live? v.value = some other := by simp [live?, hsome]
      obtain ⟨-, hother, -⟩ := channel?_eq_some.mp hsome
      simp only [h, hlive, Option.some.injEq]
      by_cases hplace : other = place
      · subst hplace
        cases hother.symm.trans hc
        simp [hlt]
      · rw [List.getElem?_set_ne hplace, if_neg hplace]
        exact hc
  | receive other =>
    show (d.receive other).1.channels[place]? = _
    unfold receive
    by_cases hplace : other = place
    · subst hplace
      simp [hc, List.getElem?_set_self hlt]
    · cases hother : d.channels[other]? with
      | none => simp [hplace, hc]
      | some c' => simp [hplace, List.getElem?_set_ne hplace, hc]
  | close other | dropReceiver other =>
    show (d.channels.modify other _)[place]? = _
    rw [List.getElem?_modify, hc]
    by_cases hplace : other = place <;> simp [hplace]

def Operation.closes (place : Nat) : Operation → Bool
  | .close other | .dropReceiver other => other = place
  | .subscribe _ | .unsubscribe _ | .route _ | .receive _ => false

theorem isOpen_apply {place : Nat} {c : Channel} (hc : d.channels[place]? = some c)
    (o : Operation) :
    (∃ c', (d.apply o).channels[place]? = some c' ∧ c'.isOpen = true) ↔
      c.isOpen = true ∧ o.closes place = false := by
  rw [getElem?_apply hc]
  simp only [Option.some.injEq, exists_eq_left']
  cases o with
  | subscribe | unsubscribe => simp [Operation.closes]
  | route packet =>
    dsimp only
    cases VarInt.decode? packet with
    | none => simp [Operation.closes]
    | some x =>
      dsimp only
      split <;> simp [Operation.closes, Channel.push]
  | receive other | close other | dropReceiver other =>
    by_cases hplace : other = place <;> simp [Operation.closes, hplace]

theorem live?_of_routes (hd : d.Sound) {o : Operation} {id : Nat}
    (h : (d.apply o).routes.get? id = d.routes.get? id) (place : Nat) :
    (d.apply o).live? id = some place ↔ d.live? id = some place ∧ o.closes place = false := by
  rw [live?_eq_some, live?_eq_some, h]
  constructor
  · rintro ⟨hroute, hopen⟩
    have hc := List.getElem?_eq_getElem (hd.placed hroute)
    obtain ⟨hc', hcloses⟩ := (isOpen_apply hc o).mp hopen
    exact ⟨⟨hroute, _, hc, hc'⟩, hcloses⟩
  · rintro ⟨⟨hroute, c, hc, hopen⟩, hcloses⟩
    exact ⟨hroute, (isOpen_apply hc o).mpr ⟨hopen, hcloses⟩⟩

/-- Routing a packet leaves a route alone, or takes away one that led nowhere. -/
theorem routes_route (d : Demuxer) (packet : Bytes) (id : Nat) :
    (d.apply (.route packet)).routes.get? id = d.routes.get? id ∨
      (d.apply (.route packet)).routes.get? id = none ∧ d.live? id = none := by
  show (d.route packet).1.routes.get? id = _ ∨ (d.route packet).1.routes.get? id = none ∧ _
  have hrouted := d.routed_route packet
  generalize d.route packet = routed at hrouted ⊢
  cases hrouted with
  | malformed | delivered => exact .inl rfl
  | @unknown v payload h hnone =>
    by_cases hid : v.value = id
    · subst hid
      exact .inr ⟨Keyed.get?_remove_self _ _, live?_eq_none.mpr hnone⟩
    · exact .inl (Keyed.get?_remove_of_ne _ hid)

/-- After an operation packets with an id go to the receiver that the operation made for it, or to
the one that they went to before, if it did not end. -/
theorem live?_apply (hd : d.Sound) (o : Operation) (id place : Nat) :
    (d.apply o).live? id = some place ↔
      (o = .subscribe id ∧ d.channels.length = place) ∨
        (d.live? id = some place ∧ o.ends id place = false) := by
  cases o with
  | subscribe other =>
    by_cases hid : other = id
    · subst hid
      have hends : Operation.ends other place (.subscribe other) = true := by simp [Operation.ends]
      have hroute : (d.apply (.subscribe other)).routes.get? other = some d.channels.length :=
        Keyed.get?_put_self _ _ _
      rw [live?_eq_some, hroute]
      simp only [hends, Option.some.injEq, true_and, Bool.true_eq_false, and_false, or_false]
      refine ⟨And.left, fun hplace => ⟨hplace, {}, ?_, rfl⟩⟩
      subst hplace
      exact List.getElem?_concat_length
    · have hroute : (d.apply (.subscribe other)).routes.get? id = d.routes.get? id :=
        Keyed.get?_put_of_ne _ _ hid
      simp [live?_of_routes hd hroute, Operation.closes, Operation.ends, hid]
  | unsubscribe other =>
    by_cases hid : other = id
    · subst hid
      have hroute : (d.apply (.unsubscribe other)).routes.get? other = none :=
        Keyed.get?_remove_self _ _
      simp [live?_eq_some, hroute, Operation.ends]
    · have hroute : (d.apply (.unsubscribe other)).routes.get? id = d.routes.get? id :=
        Keyed.get?_remove_of_ne _ hid
      simp [live?_of_routes hd hroute, Operation.closes, Operation.ends, hid]
  | route packet =>
    rcases routes_route d packet id with hroute | ⟨hnone, hbefore⟩
    · simp [live?_of_routes hd hroute, Operation.closes, Operation.ends]
    · have hafter : (d.apply (.route packet)).live? id ≠ some place := by
        rw [Ne, live?_eq_some, hnone]
        simp
      simp [hafter, hbefore]
  | receive other =>
    have hroute : (d.apply (.receive other)).routes.get? id = d.routes.get? id := by
      show (d.receive other).1.routes.get? id = _
      unfold receive
      split <;> rfl
    simp [live?_of_routes hd hroute, Operation.closes, Operation.ends]
  | close other | dropReceiver other =>
    rw [live?_of_routes hd rfl]
    simp [Operation.closes, Operation.ends]

/-! ### Subscriptions in force -/

variable {history : List Operation} {id place : Nat}

theorem length_channels_apply (d : Demuxer) (o : Operation) :
    (d.apply o).channels.length = d.channels.length + (subscriptions [o]).length := by
  cases o with
  | subscribe => exact List.length_append
  | unsubscribe => rfl
  | route packet =>
    show (d.route packet).1.channels.length = _
    have hrouted := d.routed_route packet
    generalize d.route packet = routed at hrouted ⊢
    cases hrouted with
    | malformed | unknown => rfl
    | delivered => exact List.length_set ..
  | receive other =>
    show (d.receive other).1.channels.length = _
    unfold receive
    split
    · exact List.length_set ..
    · rfl
  | close | dropReceiver => exact List.length_modify ..

theorem length_channels_after (history : List Operation) :
    (after history).channels.length = (subscriptions history).length := by
  induction history using List.reverseRecOn with
  | nil => rfl
  | append_singleton history o ih =>
    rw [after_concat, length_channels_apply, ih, subscriptions_append, List.length_append]

theorem InForce.subscribed (h : InForce history id place) :
    (subscriptions history)[place]? = some id := by
  obtain ⟨before, later, rfl, rfl, -⟩ := h
  rw [subscriptions_append, subscriptions_subscribe]
  simp

theorem inForce_concat {o : Operation} :
    InForce (history ++ [o]) id place ↔
      (o = .subscribe id ∧ (subscriptions history).length = place) ∨
        (InForce history id place ∧ o.ends id place = false) := by
  constructor
  · rintro ⟨before, later, hsplit, hplace, hlater⟩
    rcases List.eq_nil_or_concat later with rfl | ⟨later, last, rfl⟩
    · obtain ⟨rfl, ho⟩ := List.append_inj' hsplit rfl
      exact .inl ⟨List.singleton_inj.mp ho, hplace⟩
    · rw [List.concat_eq_append] at hsplit hlater
      rw [← List.cons_append, ← List.append_assoc] at hsplit
      obtain ⟨rfl, ho⟩ := List.append_inj' hsplit rfl
      obtain rfl := List.singleton_inj.mp ho
      exact .inr ⟨⟨before, later, rfl, hplace, fun x hx => hlater x (List.mem_append_left _ hx)⟩,
        hlater _ (by simp)⟩
  · rintro (⟨rfl, hplace⟩ | ⟨⟨before, later, rfl, hplace, hlater⟩, ho⟩)
    · exact ⟨history, [], rfl, hplace, by simp⟩
    · refine ⟨before, later ++ [o], by simp, hplace, fun x hx => ?_⟩
      rcases List.mem_append.mp hx with hx | hx
      · exact hlater x hx
      · rw [List.mem_singleton.mp hx]
        exact ho

/-- An id leads to the receiver of its latest subscription, as long as neither has ended. -/
theorem live?_after : (after history).live? id = some place ↔ InForce history id place := by
  induction history using List.reverseRecOn with
  | nil =>
    refine ⟨fun h => ?_, fun h => ?_⟩
    · simp [live?_eq_some, after] at h
    · have hnone := h.subscribed
      simp [subscriptions] at hnone
  | append_singleton history o ih =>
    rw [after_concat, live?_apply (sound_after history), inForce_concat, ih,
      length_channels_after]

/-- Whether the receiver of a subscription still gets packets, by what came after it. -/
theorem inForce_subscription (before : List Operation) (id : Nat) (later : List Operation)
    (other : Nat) :
    InForce (before ++ .subscribe id :: later) other (subscriptions before).length ↔
      other = id ∧ ∀ o ∈ later, o.ends id (subscriptions before).length = false := by
  induction later using List.reverseRecOn with
  | nil =>
    have hnone : ¬ InForce before other (subscriptions before).length := by
      intro h
      obtain ⟨hlt, -⟩ := List.getElem?_eq_some_iff.mp h.subscribed
      omega
    rw [inForce_concat]
    constructor
    · rintro (⟨hid, -⟩ | ⟨h, -⟩)
      · exact ⟨(Operation.subscribe.inj hid).symm, by simp⟩
      · exact absurd h hnone
    · rintro ⟨rfl, -⟩
      exact .inl ⟨rfl, rfl⟩
  | append_singleton later o ih =>
    -- a receiver that `o` makes comes after the one of the subscription
    have hplace : (subscriptions (before ++ .subscribe id :: later)).length ≠
        (subscriptions before).length := by
      rw [subscriptions_append, subscriptions_subscribe, List.length_append, List.length_cons]
      omega
    rw [← List.cons_append, ← List.append_assoc, inForce_concat, ih]
    simp only [hplace, and_false, false_or, List.mem_append, List.mem_singleton]
    constructor
    · rintro ⟨⟨rfl, hlater⟩, ho⟩
      refine ⟨rfl, fun x hx => hx.elim (hlater x) ?_⟩
      rintro rfl
      exact ho
    · rintro ⟨rfl, hlater⟩
      exact ⟨⟨rfl, fun x hx => hlater x (.inl hx)⟩, hlater o (.inr rfl)⟩

/-! ### What receivers get -/

theorem taken_concat (place : Nat) (d : Demuxer) (operations : List Operation) (o : Operation) :
    taken place d (operations ++ [o]) =
      taken place d operations ++ (operations.foldl apply d).takes place o := by
  induction operations generalizing d with
  | nil => simp [taken]
  | cons first rest ih => simp [taken, ih]

theorem payload?_of_ends {o : Operation} (h : o.ends id place = true) : o.payload? id = none := by
  cases o with
  | route | receive => cases h
  | subscribe | unsubscribe | close | dropReceiver => rfl

open Classical in
theorem heard_concat (id place : Nat) (later : List Operation) (o : Operation) :
    heard id place (later ++ [o]) = heard id place later ++
      if ∀ x ∈ later, x.ends id place = false then (o.payload? id).toList else [] := by
  induction later with
  | nil =>
    cases ho : o.ends id place with
    | true => simp [heard, ho, payload?_of_ends ho]
    | false => cases hp : o.payload? id <;> simp [heard, ho, hp]
  | cons x later ih =>
    cases hx : x.ends id place with
    | true => simp [heard, hx]
    | false =>
      have hcons : ∀ rest, heard id place (x :: rest) =
          (x.payload? id).toList ++ heard id place rest := by
        intro rest
        cases hp : x.payload? id <;> simp [heard, hx, hp]
      rw [List.cons_append, hcons, hcons, ih, List.append_assoc]
      simp [hx]

/-- An operation that keeps a receiver adds what it routes there to what the receiver has got. -/
theorem received_apply {c : Channel} (hc : d.channels[place]? = some c)
    (hid : ∀ {other}, d.live? other = some place → other = id) {o : Operation}
    (hkept : o ≠ .dropReceiver place) :
    ∃ c', (d.apply o).channels[place]? = some c' ∧
      d.takes place o ++ c'.queue =
        c.queue ++ if d.live? id = some place then (o.payload? id).toList else [] := by
  refine ⟨_, getElem?_apply hc o, ?_⟩
  cases o with
  | subscribe | unsubscribe => simp [takes, Operation.payload?]
  | close other =>
    by_cases hplace : other = place <;> simp [takes, Operation.payload?, hplace]
  | dropReceiver other =>
    have hplace : other ≠ place := fun h => hkept (h ▸ rfl)
    simp [takes, Operation.payload?, hplace]
  | receive other =>
    by_cases hplace : other = place
    · subst hplace
      simp [takes, receive, Operation.payload?, hc]
    · simp [takes, Operation.payload?, hplace]
  | route packet =>
    cases h : VarInt.decode? packet with
    | none => simp [takes, Operation.payload?, h]
    | some x =>
      obtain ⟨v, payload⟩ := x
      by_cases hv : v.value = id
      · subst hv
        by_cases hlive : d.live? v.value = some place <;>
          simp [takes, Operation.payload?, Channel.push, Option.filter, h, hlive]
      · have hlive : d.live? v.value ≠ some place := fun hlive => hv (hid hlive)
        simp [takes, Operation.payload?, h, hv, hlive]

/-- What was taken from a receiver and what waits there are together the payloads for it. -/
theorem received_after (before : List Operation) (id : Nat) (later : List Operation)
    (hkept : .dropReceiver (subscriptions before).length ∉ later) :
    ∃ c, (after (before ++ .subscribe id :: later)).channels[(subscriptions before).length]? =
        some c ∧
      taken (subscriptions before).length (after (before ++ [.subscribe id])) later ++ c.queue =
        heard id (subscriptions before).length later := by
  induction later using List.reverseRecOn with
  | nil =>
    refine ⟨{}, ?_, rfl⟩
    rw [after_concat, ← length_channels_after]
    exact List.getElem?_concat_length
  | append_singleton later o ih =>
    obtain ⟨hlater, ho⟩ := not_or.mp (List.mem_append.not.mp hkept)
    obtain ⟨c, hc, hreceived⟩ := ih hlater
    have hrun : after (before ++ .subscribe id :: later) =
        later.foldl apply (after (before ++ [.subscribe id])) := by simp [after]
    have hid : ∀ {other}, (after (before ++ .subscribe id :: later)).live? other =
        some (subscriptions before).length → other = id :=
      fun h => ((inForce_subscription ..).mp (live?_after.mp h)).1
    obtain ⟨c', hc', hstep⟩ := received_apply hc hid fun h => ho (List.mem_singleton.mpr h.symm)
    refine ⟨c', ?_, ?_⟩
    · rw [← List.cons_append, ← List.append_assoc, after_concat]
      exact hc'
    · rw [taken_concat, ← hrun, List.append_assoc, hstep, ← List.append_assoc, hreceived,
        heard_concat]
      simp only [live?_after, inForce_subscription, true_and]

/-! ### Other ids -/

/-- What is done to one id changes neither the route of another nor the channels of its
receivers. -/
theorem undisturbed {o : Operation} {other : Nat} (h : o.id? history ≠ some other) :
    ((after history).apply o).routes.get? other = (after history).routes.get? other ∧
      ∀ place : Nat, (subscriptions history)[place]? = some other →
        ((after history).apply o).channels[place]? = (after history).channels[place]? := by
  constructor
  · cases o with
    | subscribe id => exact Keyed.get?_put_of_ne _ _ fun heq => h (heq ▸ rfl)
    | unsubscribe id => exact Keyed.get?_remove_of_ne _ fun heq => h (heq ▸ rfl)
    | route packet =>
      show ((after history).route packet).1.routes.get? other = _
      have hrouted := (after history).routed_route packet
      generalize (after history).route packet = routed at hrouted ⊢
      cases hrouted with
      | malformed | delivered => rfl
      | unknown hdecode =>
        refine Keyed.get?_remove_of_ne _ fun heq => h ?_
        rw [Operation.id?, hdecode, ← heq]
        rfl
    | receive place =>
      show ((after history).receive place).1.routes.get? other = _
      unfold receive
      split <;> rfl
    | close | dropReceiver => rfl
  · intro place hplace
    obtain ⟨hlt, -⟩ := List.getElem?_eq_some_iff.mp hplace
    rw [← length_channels_after] at hlt
    have hc := List.getElem?_eq_getElem hlt
    rw [getElem?_apply hc, hc]
    congr 1
    cases o with
    | subscribe | unsubscribe => rfl
    | route packet =>
      dsimp only
      cases hdecode : VarInt.decode? packet with
      | none => rfl
      | some x =>
        refine if_neg fun hlive => h ?_
        have hid := (live?_after.mp hlive).subscribed
        rw [Operation.id?, hdecode, Option.map_some, ← hid, hplace]
    | receive one | close one | dropReceiver one =>
      refine if_neg fun heq => h ?_
      rw [Operation.id?, heq, hplace]

/-! ### Answers -/

variable {packet payload : Bytes} {v : VarInt}

theorem channel?_after_eq_none :
    (after history).channel? id = none ↔ ∀ place, ¬ InForce history id place := by
  rw [← live?_eq_none, Option.eq_none_iff_forall_ne_some]
  exact forall_congr' fun place => not_congr live?_after

theorem route_ok_iff :
    ((after history).route packet).2 = .ok id ↔
      (∃ v payload, VarInt.decode? packet = some (v, payload) ∧ v.value = id) ∧
        ∃ place, InForce history id place := by
  have hrouted := (after history).routed_route packet
  generalize (after history).route packet = routed at hrouted ⊢
  cases hrouted with
  | malformed h => simp [h]
  | @delivered v payload place c h hc =>
    have hforce : InForce history v.value place := live?_after.mp (by simp [live?, hc])
    constructor
    · intro hid
      obtain rfl := Except.ok.inj hid
      exact ⟨⟨v, payload, h, rfl⟩, place, hforce⟩
    · rintro ⟨⟨w, rest, hw, rfl⟩, -⟩
      cases h.symm.trans hw
      rfl
  | @unknown v payload h hnone =>
    refine iff_of_false (fun hid => by cases hid) ?_
    rintro ⟨⟨w, rest, hw, rfl⟩, place, hforce⟩
    cases h.symm.trans hw
    exact channel?_after_eq_none.mp hnone place hforce

theorem route_malformed (h : VarInt.decode? packet = none) :
    d.route packet = (d, .error .malformedId) := by
  simp [route, unframe, h]

/-- A packet with an id that leads nowhere ends at most a subscription to this id whose receiver is
gone. -/
theorem route_unknown (h : VarInt.decode? packet = some (v, payload))
    (hnone : ∀ place, ¬ InForce history v.value place) :
    ∃ d, (after history).route packet = (d, .error (.unknownId v.value)) ∧
      d.channels = (after history).channels ∧
      (∀ other ≠ v.value, d.routes.get? other = (after history).routes.get? other) ∧
      (d.unsubscribe v.value).2 = false ∧
      ∀ place, (after history).routes.get? v.value = some place →
        ∃ c, (after history).channels[place]? = some c ∧ c.isOpen = false := by
  have hchannel := channel?_after_eq_none.mpr hnone
  refine ⟨{ after history with routes := (after history).routes.remove v.value }, ?_, rfl,
    fun other hother => Keyed.get?_remove_of_ne _ hother.symm, ?_, fun place hplace => ?_⟩
  · simp [route, unframe, h, hchannel]
  · simp [unsubscribe]
  · have hc := List.getElem?_eq_getElem ((sound_after history).placed hplace)
    refine ⟨_, hc, Bool.eq_false_iff.mpr fun hopen => ?_⟩
    rw [channel?_eq_some.mpr ⟨hplace, hc, hopen⟩] at hchannel
    cases hchannel

/-- After any history, each receiver that was kept has got the payloads of the packets for its id
since its subscription and before the end of that, in order; a packet is delivered if it starts with
an id whose latest subscription is in force, and changes nothing that counts otherwise; and nothing
that is done to one id shows at another. -/
theorem receivers_by_history (history : List Operation) :
    (∀ before id later, history = before ++ .subscribe id :: later →
      ((after before).subscribe id).2 = (subscriptions before).length ∧
        (.dropReceiver (subscriptions before).length ∉ later →
          ∃ c, (after history).channels[(subscriptions before).length]? = some c ∧
            taken (subscriptions before).length (after (before ++ [.subscribe id])) later ++
              c.queue = heard id (subscriptions before).length later)) ∧
    (∀ packet id, ((after history).route packet).2 = .ok id ↔
      (∃ v payload, VarInt.decode? packet = some (v, payload) ∧ v.value = id) ∧
        ∃ place, InForce history id place) ∧
    (∀ packet, (∀ first ∈ packet.head?, packet.length < VarInt.width (first.toNat / 64)) →
      (after history).route packet = (after history, .error .malformedId)) ∧
    (∀ packet v payload, VarInt.decode? packet = some (v, payload) →
      (∀ place, ¬ InForce history v.value place) →
      ∃ d, (after history).route packet = (d, .error (.unknownId v.value)) ∧
        d.channels = (after history).channels ∧
        (∀ other ≠ v.value, d.routes.get? other = (after history).routes.get? other) ∧
        (d.unsubscribe v.value).2 = false ∧
        ∀ place, (after history).routes.get? v.value = some place →
          ∃ c, (after history).channels[place]? = some c ∧ c.isOpen = false) ∧
    ∀ o other, o.id? history ≠ some other →
      ((after history).apply o).routes.get? other = (after history).routes.get? other ∧
        ∀ place : Nat, (subscriptions history)[place]? = some other →
          ((after history).apply o).channels[place]? = (after history).channels[place]? := by
  refine ⟨?_, fun _ _ => route_ok_iff, fun _ h => route_malformed (VarInt.decode?_eq_none.mpr h),
    fun _ _ _ h hnone => route_unknown h hnone, fun _ _ h => undisturbed h⟩
  rintro before id later rfl
  exact ⟨length_channels_after before, received_after before id later⟩

/-- Packets before and after an id is subscribed to again, the second with its id on two bytes. -/
def renewal : List Operation := [.subscribe 5, .route [5, 1], .subscribe 5, .route [64, 5, 2]]

/-- Each receiver has the payload that came while its subscription was the latest, and a packet for
the second is unknown once this is dropped. -/
theorem receivers_of_renewal :
    (∃ c, (after renewal).channels[0]? = some c ∧ c.queue = [[1]]) ∧
      (∃ c, (after renewal).channels[1]? = some c ∧ c.queue = [[2]]) ∧
      ∃ d, (after (renewal ++ [.dropReceiver 1])).route [5, 3] = (d, .error (.unknownId 5)) ∧
        (d.unsubscribe 5).2 = false := by
  have hreceived := (receivers_by_history renewal).1
  obtain ⟨-, hfirst⟩ := hreceived [] 5 (renewal.drop 1) rfl
  obtain ⟨-, hsecond⟩ := hreceived (renewal.take 2) 5 (renewal.drop 3) rfl
  obtain ⟨-, -, -, hunknown, -⟩ := receivers_by_history (renewal ++ [.dropReceiver 1])
  have hnone : ∀ place, ¬ InForce (renewal ++ [.dropReceiver 1]) 5 place := by
    intro place h
    have hdead : (after (renewal ++ [.dropReceiver 1])).live? 5 = none := by decide
    cases hdead.symm.trans (live?_after.mpr h)
  refine ⟨?_, ?_, ?_⟩
  · exact hfirst (by decide)
  · exact hsecond (by decide)
  · obtain ⟨d, hroute, -, -, hgone, -⟩ := hunknown [5, 3] ⟨5, by decide⟩ [3] (by rfl) hnone
    exact ⟨d, hroute, hgone⟩

end Demuxer

end MediaMux
