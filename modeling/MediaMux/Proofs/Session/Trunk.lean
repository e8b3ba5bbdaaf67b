import MediaMux.Proofs.Demuxer.Routing
import MediaMux.Proofs.Session.Tables

/-!
# Flows that share a transport

On a trunk each flow has an id of its own. What its transport records are the payloads of the
writes that were accepted, each behind the id of its flow (`Trunk.recorded_run`), so routing what
was recorded leads every payload to the channel of the flow that wrote it.
-/

namespace MediaMux

open Feedback

/-- A transport that flows share, and the id of each of them. -/
structure Trunk where
  place : Nat
  id? : Port → Option VarInt
  unshared : ∀ {port other v}, id? port = some v → id? other = some v → port = other

/-- A payload that came to a trunk, with the flow that wrote it and the flow's id. -/
structure Cargo where
  port : Port
  id : VarInt
  payload : Bytes
deriving DecidableEq

namespace Trunk

/-- The flow has the id that the trunk gives to its port, and is bound to no other transport. -/
structure Joins (k : Trunk) (port : Port) (f : Flow) : Prop where
  id : f.id = k.id? port
  identified : f.id.isSome = true
  bound : ∀ place, f.transport = some place → place = k.place

/-- All flows of RTP packets belong to the trunk. -/
def Carries (k : Trunk) (s : Session) : Prop :=
  ∀ p f, s.flow? (.rtp p) = some f → k.Joins (.rtp p) f

/-- The call leaves the records of the trunk alone and binds only flows with their ids to it. -/
def Admits (k : Trunk) : Call → Prop
  | .bindRtp place => place = k.place
  | .addRtpFlow p id place =>
    ∀ v, VarInt.ofNat? id = some v → place = k.place ∧ k.id? (.rtp p) = some v
  | .takeBuffers place => place ≠ k.place
  | .writeFlow f _ | .writeNoted f _ _ | .writeCompound f _ =>
    f.transport = some k.place → k.Joins (.own f) f
  | _ => True

/-- What an accepted write brings to the trunk. -/
def loaded? (k : Trunk) (s : Session) (c : Call) : Option Cargo := do
  let x ← s.carried? c
  let f ← s.flow? x.1
  let v ← f.id
  if f.transport = some k.place then some ⟨x.1, v, x.2⟩ else none

/-- What an action brings to the trunk. -/
def loads (k : Trunk) (w : World) : Action → List Cargo
  | .call c => (k.loaded? w.session c).toList
  | .proceed _ => []

/-- What a run brings to the trunk. -/
def cargo (k : Trunk) (w : World) : List Action → List Cargo
  | [] => []
  | a :: rest => k.loads w a ++ k.cargo (w.step a) rest

variable {k : Trunk}

/-! ### The flows of a trunk -/

theorem Joins.bind {port : Port} {f : Flow} (h : k.Joins port f) : k.Joins port (f.bind k.place) :=
  ⟨h.id, h.identified, fun _ hplace => (Option.some.inj hplace).symm⟩

theorem Carries.bindRtp {s : Session} (h : k.Carries s) :
    k.Carries (s.apply (.bindRtp k.place)) := by
  intro p f hf
  rw [Session.flow?_rtp, Session.table?_apply] at hf
  obtain ⟨t, ht, hget⟩ := Option.bind_eq_some_iff.mp hf
  obtain ⟨t, htable, rfl⟩ := Option.map_eq_some_iff.mp ht
  rw [FlowTable.get?_bind] at hget
  have hflow : ∀ {q g}, t.get? q = some g → k.Joins (.rtp q) g := by
    intro q g hg
    refine h q g ?_
    rw [Session.flow?_rtp, htable]
    exact hg
  by_cases hp : p = .default
  · rw [if_pos hp] at hget
    cases hget
    subst hp
    exact (hflow t.get?_default).bind
  · rw [if_neg hp] at hget
    exact hflow hget

theorem Carries.addRtpFlow {s : Session} (h : k.Carries s) {p : Priority} {id place : Nat}
    (hid : ∀ v, VarInt.ofNat? id = some v → place = k.place ∧ k.id? (.rtp p) = some v) :
    k.Carries (s.apply (.addRtpFlow p id place)) := by
  intro q f hf
  rw [Session.flow?_rtp, Session.table?_apply] at hf
  unfold Flow.identified at hf
  cases hv : VarInt.ofNat? id with
  | none => exact h q f (by simpa [hv, Session.flow?_rtp] using hf)
  | some v =>
    obtain ⟨hplace, hport⟩ := hid v hv
    simp only [hv] at hf
    obtain ⟨_, ht, hget⟩ := Option.bind_eq_some_iff.mp hf
    obtain ⟨t, htable, rfl⟩ := Option.map_eq_some_iff.mp ht
    rw [FlowTable.get?_put] at hget
    by_cases hp : p = q
    · rw [if_pos hp] at hget
      cases hget
      subst hp
      exact ⟨hport.symm, rfl, fun _ hbound => (Option.some.inj hbound).symm.trans hplace⟩
    · rw [if_neg hp] at hget
      refine h q f ?_
      rw [Session.flow?_rtp, htable]
      exact hget

theorem Carries.apply {s : Session} (h : k.Carries s) {c : Call} (hc : k.Admits c) :
    k.Carries (s.apply c) := by
  have hsame : (s.apply c).table? = s.table? → k.Carries (s.apply c) := by
    intro htable p f hf
    rw [Session.flow?_rtp, htable, ← Session.flow?_rtp] at hf
    exact h p f hf
  have htable := s.table?_apply c
  cases c with
  | bindRtp place =>
    have hplace : place = k.place := hc
    subst hplace
    exact h.bindRtp
  | addRtpFlow p id place => exact h.addRtpFlow hc
  | dropRtp =>
    intro p f hf
    rw [Session.flow?_rtp, htable] at hf
    cases hf
  | writeRtp | writeFlow | writeNoted | writeCompound | addTransport | script | takeBuffers
  | resolve | takeNotes | setClassifier | startFeedback | stopFeedback | claimHandle | cancelToken
  | setReading | setClock | addSink | modifySink | pass => exact hsame htable

theorem Carries.step {w : World} (h : k.Carries w.session) {a : Action}
    (ha : ∀ c, a = .call c → k.Admits c) : k.Carries (w.step a).session := by
  cases a with
  | call c => exact h.apply (ha c rfl)
  | proceed g =>
    obtain ⟨-, hrtp⟩ := w.wire_proceed g
    intro p f hf
    refine h p f ?_
    unfold Session.flow? at hf ⊢
    rwa [hrtp] at hf

/-! ### What is recorded -/

/-- A flow through which an admitted call writes to the trunk has joined it. -/
theorem joins_of_carried? {s : Session} (h : k.Carries s) {c : Call} (hc : k.Admits c)
    {x : Port × Bytes} (hx : s.carried? c = some x) {f : Flow} (hf : s.flow? x.1 = some f)
    (hplace : f.transport = some k.place) : k.Joins x.1 f := by
  obtain ⟨port, payload⟩ := x
  cases port with
  | rtp p => exact h p f hf
  | own g =>
    have hgf : g = f := Option.some.inj hf
    subst hgf
    unfold Session.carried? at hx
    simp only [Option.bind_eq_bind, Option.bind_eq_some_iff] at hx
    obtain ⟨-, -, -, -, hoffer⟩ := hx
    cases c with
    | writeFlow f' _ | writeNoted f' _ _ =>
      cases hoffer
      exact hc hplace
    | writeCompound f' packets =>
      obtain ⟨payload', -, heq⟩ := Option.bind_eq_some_iff.mp hoffer
      cases heq
      exact hc hplace
    | writeRtp header body =>
      obtain ⟨rtp, -, hrest⟩ := Option.bind_eq_some_iff.mp hoffer
      obtain ⟨bytes, -, heq⟩ := Option.bind_eq_some_iff.mp hrest
      cases heq
    | _ => cases hoffer

theorem framed?_eq_loaded? {s : Session} (h : k.Carries s) {c : Call} (hc : k.Admits c) :
    (s.carried? c).bind (s.framed? k.place) =
      (k.loaded? s c).map fun x => x.id.encode ++ x.payload := by
  unfold loaded? Session.framed?
  cases hx : s.carried? c with
  | none => rfl
  | some x =>
    simp only [Option.bind_eq_bind, Option.bind_some]
    cases hf : s.flow? x.1 with
    | none => rfl
    | some f =>
      simp only [Option.bind_some]
      by_cases hplace : f.transport = some k.place
      · have hjoins := joins_of_carried? h hc hx hf hplace
        obtain ⟨v, hv⟩ := Option.isSome_iff_exists.mp hjoins.identified
        simp [hv, hplace, Flow.frame, Flow.idBytes]
      · cases f.id <;> simp [hplace]

theorem recorded_step {w : World} (h : k.Carries w.session) {a : Action}
    (ha : ∀ c, a = .call c → k.Admits c) :
    (w.step a).session.recorded k.place =
      w.session.recorded k.place ++ (k.loads w a).map fun x => x.id.encode ++ x.payload := by
  cases a with
  | call c =>
    have hc := ha c rfl
    have htake : c ≠ .takeBuffers k.place := by
      rintro rfl
      exact hc rfl
    have happly := w.session.recorded_apply k.place htake
    rw [framed?_eq_loaded? h hc, Option.toList_map] at happly
    exact happly
  | proceed g =>
    obtain ⟨htransports, -⟩ := w.wire_proceed g
    have hsame := congrArg (recordedAt · k.place) htransports
    exact hsame.trans (List.append_nil _).symm

theorem recorded_run {w : World} (h : k.Carries w.session) {actions : List Action}
    (hactions : ∀ c, .call c ∈ actions → k.Admits c) :
    (w.run actions).session.recorded k.place =
      w.session.recorded k.place ++ (k.cargo w actions).map fun x => x.id.encode ++ x.payload := by
  induction actions generalizing w with
  | nil => exact (List.append_nil _).symm
  | cons a rest ih =>
    have ha : ∀ c, a = .call c → k.Admits c :=
      fun c hc => hactions c (hc ▸ List.mem_cons_self)
    have hrest := ih (h.step ha) fun c hc => hactions c (List.mem_cons_of_mem _ hc)
    rw [cargo, List.map_append, ← List.append_assoc, ← recorded_step h ha]
    exact hrest

theorem id?_of_loads {w : World} (h : k.Carries w.session) {a : Action}
    (ha : ∀ c, a = .call c → k.Admits c) {x : Cargo} (hx : x ∈ k.loads w a) :
    k.id? x.port = some x.id := by
  cases a with
  | call c =>
    have hloaded := Option.mem_toList.mp hx
    unfold loaded? at hloaded
    simp only [Option.bind_eq_bind, Option.bind_eq_some_iff] at hloaded
    obtain ⟨y, hy, f, hf, v, hv, hcargo⟩ := hloaded
    by_cases hplace : f.transport = some k.place
    · rw [if_pos hplace] at hcargo
      cases hcargo
      have hjoins := joins_of_carried? h (ha c rfl) hy hf hplace
      exact hjoins.id.symm.trans hv
    · rw [if_neg hplace] at hcargo
      cases hcargo
  | proceed g => cases hx

theorem id?_of_cargo {w : World} (h : k.Carries w.session) {actions : List Action}
    (hactions : ∀ c, .call c ∈ actions → k.Admits c) {x : Cargo} (hx : x ∈ k.cargo w actions) :
    k.id? x.port = some x.id := by
  induction actions generalizing w with
  | nil => cases hx
  | cons a rest ih =>
    have ha : ∀ c, a = .call c → k.Admits c :=
      fun c hc => hactions c (hc ▸ List.mem_cons_self)
    rcases List.mem_append.mp hx with hhere | hlater
    · exact id?_of_loads h ha hhere
    · exact ih (h.step ha) (fun c hc => hactions c (List.mem_cons_of_mem _ hc)) hlater

/-! ### What is routed -/

/-- The payloads of a flow are those behind its id. -/
theorem payloadsOf_cargo {xs : List Cargo} (hxs : ∀ x ∈ xs, k.id? x.port = some x.id)
    {port : Port} {v : VarInt} (hport : k.id? port = some v) :
    Demuxer.payloadsOf v.value (xs.map fun x => (x.id, x.payload)) =
      (xs.filter fun x => x.port = port).map (·.payload) := by
  have hsame : ∀ x ∈ xs, decide (x.id.value = v.value) = decide (x.port = port) := by
    intro x hx
    have hid := hxs x hx
    refine decide_eq_decide.mpr ⟨fun hvalue => ?_, fun heq => ?_⟩
    · rw [VarInt.eq_of_value_eq hvalue] at hid
      exact k.unshared hid hport
    · rw [heq, hport] at hid
      rw [Option.some.inj hid]
  unfold Demuxer.payloadsOf
  rw [List.filter_map, List.map_map, ← List.filter_congr hsame]
  rfl

/-- On a trunk nothing that was written gets lost, doubled or confused. What its transport records
over a run is routed without a failure, each buffer to the id of the flow that wrote it, and the
channel of each flow takes the payloads of its accepted writes, in order. Nothing else changes. -/
theorem routed_as_written (k : Trunk) {w : World} (hw : k.Carries w.session)
    {actions : List Action} (hactions : ∀ c, .call c ∈ actions → k.Admits c)
    {d : Demuxer} (hd : d.Reachable)
    (hopen : ∀ port v, k.id? port = some v → (d.channel? v.value).isSome = true) :
    ∃ buffers,
      (w.run actions).session.recorded k.place = w.session.recorded k.place ++ buffers ∧
      (d.routeAll buffers).2 = (k.cargo w actions).map (fun x => .ok x.id.value) ∧
      (∀ x ∈ k.cargo w actions, k.id? x.port = some x.id) ∧
      (∀ port v place c, k.id? port = some v → d.channel? v.value = some (place, c) →
        (d.routeAll buffers).1.channel? v.value = some (place,
          c.push (((k.cargo w actions).filter fun x => x.port = port).map (·.payload)))) ∧
      (d.routeAll buffers).1.routes = d.routes ∧
      ∀ place, (∀ port v, k.id? port = some v → d.routes.get? v.value ≠ some place) →
        (d.routeAll buffers).1.channels[place]? = d.channels[place]? := by
  have hids : ∀ x ∈ k.cargo w actions, k.id? x.port = some x.id :=
    fun x hx => id?_of_cargo hw hactions hx
  have hrecorded := recorded_run hw hactions
  generalize k.cargo w actions = xs at hids hrecorded ⊢
  have hpackets : xs.map (fun x => x.id.encode ++ x.payload) =
      (xs.map fun x => (x.id, x.payload)).map fun x => x.1.encode ++ x.2 := by
    rw [List.map_map]
    rfl
  rw [hpackets] at hrecorded
  have hchannels : ∀ x ∈ xs.map fun x => (x.id, x.payload),
      (d.channel? x.1.value).isSome = true := by
    intro x hx
    obtain ⟨y, hy, rfl⟩ := List.mem_map.mp hx
    exact hopen y.port y.id (hids y hy)
  obtain ⟨hdelivered, houtcomes⟩ := Demuxer.delivered_routeAll hd.sound _ hchannels
  refine ⟨_, hrecorded, ?_, hids, ?_, hdelivered.routes, ?_⟩
  · rw [houtcomes, List.map_map]
    rfl
  · intro port v place c hport hc
    rw [← payloadsOf_cargo hids hport]
    exact hdelivered.received hc
  · intro place hplace
    refine hdelivered.untouched fun x hx => ?_
    obtain ⟨y, hy, rfl⟩ := List.mem_map.mp hx
    exact hplace y.port y.id (hids y hy)

/-- A flow beside those of RTP packets. -/
def besides : Flow := { id := some ⟨64, by decide⟩, transport := some 0 }

/-- The ids of two classes and of the flow beside them. -/
def threefoldId? : Port → Option VarInt
  | .rtp p =>
    if p = .default then some ⟨0, by decide⟩
    else if p = ⟨1⟩ then some ⟨16384, by decide⟩ else none
  | .own f => if f = besides then some ⟨64, by decide⟩ else none

theorem unshared_threefold {port other : Port} {v : VarInt} (hport : threefoldId? port = some v)
    (hother : threefoldId? other = some v) : port = other := by
  cases port <;> cases other <;> grind [threefoldId?]

theorem value_of_threefoldId? {port : Port} {v : VarInt} (h : threefoldId? port = some v) :
    v.value ∈ [0, 16384, 64] := by
  cases port <;> grind [threefoldId?]

/-- A trunk for two classes and a flow beside them. -/
def threefold : Trunk where
  place := 0
  id? := threefoldId?
  unshared := unshared_threefold

/-- The flows are set up, and packets written through all of them; a compound packet is refused. -/
def throughThreefold : List Action :=
  [.call (.addTransport {}), .call (.bindRtp 0), .call (.addRtpFlow ⟨1⟩ 16384 0),
    .call (.setClassifier (.inTurn [.default, ⟨1⟩] 0)),
    .call (.writeRtp (FixedHeader.toRtpHeader {}) [1]),
    .call (.script 0 {} [⟨.wouldBlock, none⟩]),
    .call (.writeCompound besides [{ bytes := [5] }]),
    .call (.writeRtp (FixedHeader.toRtpHeader {}) [2]),
    .call (.writeCompound besides [{ bytes := [0x40] }, { bytes := [0x64, 7] }])]

theorem routed_through_threefold :
    let base : Flow := { id := some ⟨0, by decide⟩ }
    let w : World := { session := { rtp := some { table := { base := base } } } }
    let d : Demuxer := [.subscribe 0, .subscribe 64, .subscribe 16384].foldl Demuxer.apply {}
    ∃ buffers, (w.run throughThreefold).session.recorded 0 = buffers ∧
      (d.routeAll buffers).2 = [.ok 0, .ok 16384, .ok 64] ∧
      (d.routeAll buffers).1.channel? 64 = some (1, { queue := [[0x40, 0x64, 7]] }) := by
  intro base w d
  have hw : threefold.Carries w.session := by
    intro p f hf
    have hget : (if p = .default then some { id := some ⟨0, by decide⟩ } else none : Option Flow) =
        some f := hf
    by_cases hp : p = .default
    · subst hp
      cases hget
      exact ⟨rfl, rfl, fun _ hplace => by cases hplace⟩
    · rw [if_neg hp] at hget
      cases hget
  have hactions : ∀ c, .call c ∈ throughThreefold → threefold.Admits c := by
    have hbesides : threefold.Joins (.own besides) besides :=
      ⟨rfl, rfl, fun _ hplace => (Option.some.inj hplace).symm⟩
    have hclass : ∀ v, VarInt.ofNat? 16384 = some v →
        0 = threefold.place ∧ threefold.id? (.rtp ⟨1⟩) = some v := fun v hv => ⟨rfl, hv⟩
    intro c hc
    simp only [throughThreefold, List.mem_cons, Action.call.injEq, List.not_mem_nil, or_false] at hc
    rcases hc with rfl | rfl | rfl | rfl | rfl | rfl | rfl | rfl | rfl
    · trivial
    · rfl
    · exact hclass
    · trivial
    · trivial
    · trivial
    · exact fun _ => hbesides
    · trivial
    · exact fun _ => hbesides
  have hopen : ∀ port v, threefold.id? port = some v → (d.channel? v.value).isSome = true := by
    have hchannel : ∀ id ∈ [0, 16384, 64], (d.channel? id).isSome = true := by decide +kernel
    exact fun port v hport => hchannel v.value (value_of_threefoldId? hport)
  have hcargo : threefold.cargo w throughThreefold =
      [⟨.rtp .default, ⟨0, by decide⟩, FixedHeader.encode {} ++ [1]⟩,
        ⟨.rtp ⟨1⟩, ⟨16384, by decide⟩, FixedHeader.encode {} ++ [2]⟩,
        ⟨.own besides, ⟨64, by decide⟩, [0x40, 0x64, 7]⟩] := by
    decide +kernel
  obtain ⟨buffers, hrecorded, houtcomes, -, hchannels, -, -⟩ :=
    threefold.routed_as_written hw hactions ⟨_, rfl⟩ hopen
  rw [hcargo] at houtcomes hchannels
  refine ⟨buffers, hrecorded, houtcomes, ?_⟩
  exact hchannels (.own besides) _ 1 {} rfl (by decide +kernel)

end Trunk

end MediaMux
