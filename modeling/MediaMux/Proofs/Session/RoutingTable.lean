import MediaMux.Proofs.Session.Tables

/-!
# Routing by a table

All that decides where an RTP packet goes is a table: the flow of each class, the classifier that
was set last, and the packets that it was asked about since. What is done to a session changes the
table entry by entry (`RoutingTable.step`), and a write offers its packet to the transport of the
entry for its class, and to no other (`RoutingTable.send`).
-/

namespace MediaMux

open Feedback

/-! ### Classifiers -/

namespace Classifier

def after (p : Classifier) (asked : List (RtpHeader × Bytes)) : Classifier :=
  asked.foldl (fun p x => (p.classify x.1 x.2).2) p

variable {p : Classifier} {asked : List (RtpHeader × Bytes)} {header : RtpHeader} {payload : Bytes}

theorem after_concat :
    p.after (asked ++ [(header, payload)]) = ((p.after asked).classify header payload).2 := by
  simp [after]

theorem after_inTurn (c : Priority) (classes : List Priority) (routed : UInt64)
    (asked : List (RtpHeader × Bytes)) :
    (inTurn (c :: classes) routed).after asked =
      inTurn (c :: classes) (routed + UInt64.ofNat asked.length) := by
  induction asked generalizing routed with
  | nil => simp [after]
  | cons x rest ih =>
    have hnext : (inTurn (c :: classes) routed).after (x :: rest) =
        (inTurn (c :: classes) (routed + 1)).after rest := rfl
    have hlength : UInt64.ofNat (rest.length + 1) = 1 + UInt64.ofNat rest.length := by
      rw [Nat.add_comm, UInt64.ofNat_add]
      rfl
    rw [hnext, ih, List.length_cons, hlength, UInt64.add_assoc]

/-- The class of the next packet, when classes take turns. -/
theorem classify_inTurn {classes : List Priority} (h : classes ≠ []) (routed : UInt64)
    (asked : List (RtpHeader × Bytes)) (header : RtpHeader) (payload : Bytes) :
    classes[(routed.toNat + asked.length) % UInt64.size % classes.length]? =
      some (((inTurn classes routed).after asked).classify header payload).1 := by
  cases classes with
  | nil => exact absurd rfl h
  | cons c classes =>
    have hlt : (routed.toNat + asked.length) % UInt64.size % (classes.length + 1) <
        (c :: classes).length := Nat.mod_lt _ (Nat.succ_pos _)
    have hcount : (routed + UInt64.ofNat asked.length).toNat =
        (routed.toNat + asked.length) % UInt64.size := by
      rw [UInt64.toNat_add, UInt64.toNat_ofNat', Nat.add_mod_mod]
    rw [after_inTurn, classify, hcount, List.length_cons, List.getD_eq_getElem?_getD,
      List.getElem?_eq_getElem hlt, Option.getD_some]

end Classifier

/-! ### Tables -/

/-- Where packets go: the flow of each class, the classifier, and the packets that the classifier
was asked about. -/
structure RoutingTable where
  flows : Priority → Option Flow
  classifier : Classifier := .uniform
  asked : List (RtpHeader × Bytes) := []

namespace RoutingTable

/-- The table of a new session whose default flow has the id `id`, if one is given. -/
def initial (id : Option Nat) : RoutingTable where
  flows := Function.update (fun _ => none) .default (some { id := id.bind VarInt.ofNat? })

def step (t : RoutingTable) : Action → RoutingTable
  | .call (.bindRtp place) =>
    { t with flows := Function.update t.flows .default ((t.flows .default).map (·.bind place)) }
  | .call (.addRtpFlow p id place) =>
    match VarInt.ofNat? id with
    | some v =>
      { t with flows := Function.update t.flows p (some { id := some v, transport := some place }) }
    | none => t
  | .call (.setClassifier classifier) => { t with classifier := classifier, asked := [] }
  | .call (.writeRtp header payload) =>
    match header.serialized.failure with
    | none => { t with asked := t.asked ++ [(header, payload)] }
    | some _ => t
  | _ => t

def run (t : RoutingTable) (actions : List Action) : RoutingTable := actions.foldl step t

def classOf (t : RoutingTable) (header : RtpHeader) (payload : Bytes) : Priority :=
  ((t.classifier.after t.asked).classify header payload).1

/-- What comes of a packet of the class `p`, with a notifier for `watcher?` if there is one: the
transport of its flow is offered the packet behind the id of the flow, and its answer is that of
the write. -/
def send (t : RoutingTable) (ts : List (Transport Watcher)) (p : Priority) (packet : Bytes)
    (watcher? : Option Watcher) : List (Transport Watcher) × Except FlowError Nat :=
  match t.flows p with
  | none => (ts, .error (.noFlowFor p))
  | some f =>
    match f.target? ts, watcher? with
    | none, _ => (ts, .error .unbound)
    | some (place, transport), none =>
      let (transport, outcome) := transport.write ((f.id.map VarInt.encode).getD [] ++ packet)
      (ts.set place transport, outcome.mapError .refused)
    | some (place, transport), some watcher =>
      if transport.traits.reportsDelivery then
        let (transport, outcome) :=
          transport.writeWatched ((f.id.map VarInt.encode).getD [] ++ packet) watcher
        (ts.set place transport, (outcome.map Prod.fst).mapError .refused)
      else (ts, .error .deliveryUnobservable)

/-- The session routes as the table says. -/
def Describes (t : RoutingTable) (s : Session) : Prop :=
  ∃ rtp, s.rtp = some rtp ∧ (∀ p, rtp.table.get? p = t.flows p) ∧
    rtp.classifier = t.classifier.after t.asked

variable {t : RoutingTable} {s : Session}

theorem describes_initial {id : Option Nat} {clock : Clock} {hasRuntime : Bool} {horizon : Nat}
    (h : Session.start id clock hasRuntime horizon = .ok s) : (initial id).Describes s := by
  have hbase : ∀ p, FlowTable.get? { base := { id := id.bind VarInt.ofNat? } } p =
      (initial id).flows p := by
    intro p
    by_cases hp : p = .default
    · simp [FlowTable.get?, initial, hp]
    · simp [FlowTable.get?, initial, hp]
  cases id with
  | none =>
    cases h
    exact ⟨_, rfl, hbase, rfl⟩
  | some id =>
    unfold Session.start Flow.identified at h
    cases hv : VarInt.ofNat? id with
    | none =>
      simp only [hv] at h
      cases h
    | some v =>
      simp only [hv] at h
      cases h
      rw [Option.bind_some, hv] at hbase
      exact ⟨_, rfl, hbase, rfl⟩

theorem Describes.apply (h : t.Describes s) {c : Call} (hc : c ≠ .dropRtp) :
    (t.step (.call c)).Describes (s.apply c) := by
  obtain ⟨rtp, hrtp, hflows, hclassifier⟩ := h
  have hafter := s.rtp_apply c
  rw [hrtp] at hafter
  cases c with
  | bindRtp place =>
    refine ⟨_, hafter, fun p => ?_, hclassifier⟩
    have hbase : t.flows .default = some rtp.table.base := (hflows .default).symm
    rw [FlowTable.get?_bind, hflows]
    simp [step, Function.update_apply, hbase]
  | addRtpFlow p id place =>
    simp only [step, Flow.identified] at hafter ⊢
    cases hv : VarInt.ofNat? id with
    | none =>
      simp only [hv] at hafter
      exact ⟨rtp, hafter, hflows, hclassifier⟩
    | some v =>
      simp only [hv] at hafter
      refine ⟨_, hafter, fun q => ?_, hclassifier⟩
      rw [FlowTable.get?_put, hflows]
      simp [Function.update_apply, Flow.bind, eq_comm]
  | setClassifier classifier => exact ⟨_, hafter, hflows, rfl⟩
  | writeRtp header payload =>
    simp only [step, Serialized.result] at hafter ⊢
    cases hfailure : header.serialized.failure with
    | some cause =>
      simp only [hfailure] at hafter
      exact ⟨rtp, hafter, hflows, hclassifier⟩
    | none =>
      simp only [hfailure] at hafter
      refine ⟨_, hafter, hflows, ?_⟩
      rw [Classifier.after_concat, ← hclassifier]
  | startFeedback sender request meter sink parent =>
    dsimp only at hafter
    split at hafter
    · exact ⟨_, hafter, hflows, hclassifier⟩
    · exact ⟨rtp, hafter, hflows, hclassifier⟩
  | claimHandle => exact ⟨_, hafter, hflows, hclassifier⟩
  | dropRtp => exact absurd rfl hc
  | writeFlow | writeNoted | writeCompound | addTransport | script | takeBuffers | resolve
  | takeNotes | stopFeedback | cancelToken | setReading | setClock | addSink | modifySink | pass =>
    exact ⟨rtp, hafter, hflows, hclassifier⟩

theorem Describes.step {w : World} (h : t.Describes w.session) {a : Action}
    (ha : a ≠ .call .dropRtp) : (t.step a).Describes (w.step a).session := by
  cases a with
  | call c => exact h.apply fun hc => ha (hc ▸ rfl)
  | proceed g =>
    obtain ⟨-, hrtp⟩ := w.wire_proceed g
    obtain ⟨rtp, hsame, hrest⟩ := h
    exact ⟨rtp, hrtp.trans hsame, hrest⟩

theorem Describes.run {w : World} (h : t.Describes w.session) {actions : List Action}
    (hkept : .call .dropRtp ∉ actions) : (t.run actions).Describes (w.run actions).session := by
  induction actions generalizing t w with
  | nil => exact h
  | cons a rest ih =>
    obtain ⟨ha, hrest⟩ := not_or.mp (List.mem_cons.not.mp hkept)
    exact ih (h.step (Ne.symm ha)) hrest

/-! ### Packets -/

theorem send_none {ts : List (Transport Watcher)} {p : Priority} (h : t.flows p = none)
    (packet : Bytes) (watcher? : Option Watcher) :
    t.send ts p packet watcher? = (ts, .error (.noFlowFor p)) := by
  simp only [send, h]

theorem send_plain {p : Priority} {f : Flow} (h : t.flows p = some f)
    (ts : List (Transport Watcher)) (packet : Bytes) :
    t.send ts p packet none = f.write ts packet := by
  simp only [send, h, Flow.write]
  cases f.target? ts <;> rfl

theorem send_watched {p : Priority} {f : Flow} (h : t.flows p = some f)
    (ts : List (Transport Watcher)) (packet : Bytes) (w : Watcher) :
    t.send ts p packet (some w) =
      ((f.writeWatched ts packet w).1, (f.writeWatched ts packet w).2.map Prod.fst) := by
  simp only [send, h, Flow.writeWatched]
  cases f.target? ts with
  | none => rfl
  | some target =>
    obtain ⟨place, transport⟩ := target
    cases haware : transport.traits.reportsDelivery with
    | false => simp [haware, Except.map]
    | true =>
      simp only [haware, if_true]
      show (_, Except.mapError _ ((transport.writeWatched (f.frame packet) w).2.map _)) = _
      cases (transport.writeWatched (f.frame packet) w).2 <;> rfl

/-- A packet that can be serialized goes the way that the table has for it. -/
theorem Describes.writeRtp (h : t.Describes s) {header : RtpHeader} {bytes : Bytes}
    (hbytes : header.serialized.result = .ok bytes) (payload : Bytes) :
    ((s.writeRtp header payload).1.transports, (s.writeRtp header payload).2) =
      t.send s.transports (t.classOf header payload) (bytes ++ payload)
        (s.tracker?.map fun g => .tracked g (s.sentPacket header bytes payload)) := by
  obtain ⟨rtp, hrtp, hflows, hclassifier⟩ := h
  have hclass : (rtp.classifier.classify header payload).1 = t.classOf header payload := by
    rw [hclassifier]
    rfl
  have hrouted := s.routed_writeRtp header payload
  generalize s.writeRtp header payload = written at hrouted ⊢
  cases hrouted with
  | unbound hnone => cases hrtp.symm.trans hnone
  | unserializable herror => cases hbytes.symm.trans herror
  | unrouted hsame _ hflow =>
    cases hrtp.symm.trans hsame
    rw [hclass] at hflow ⊢
    rw [send_none ((hflows _).symm.trans hflow)]
    rfl
  | plain hsame hserialized hflow htracker =>
    cases hrtp.symm.trans hsame
    cases hbytes.symm.trans hserialized
    rw [hclass] at hflow
    rw [htracker, Option.map_none, send_plain ((hflows _).symm.trans hflow)]
    exact Session.transports_writeFlow _ _ _
  | watched hsame hserialized hflow htracker =>
    cases hrtp.symm.trans hsame
    cases hbytes.symm.trans hserialized
    rw [hclass] at hflow
    rw [htracker, Option.map_some, send_watched ((hflows _).symm.trans hflow)]
    exact Session.transports_writeFlowWatched _ _ _ _

/-- Over any run, a session routes by its table. Class 0 is always in it, and flows that cannot be
added change nothing. A packet that can be serialized is put to the classifier once, and is offered
to the transport that the table has for its class, and to no other. -/
theorem routed_by_table {id : Option Nat} {clock : Clock} {hasRuntime : Bool} {horizon : Nat}
    {origin : Session} (hstart : Session.start id clock hasRuntime horizon = .ok origin)
    (actions : List Action) (hkept : .call .dropRtp ∉ actions) :
    let s := (({ session := origin } : World).run actions).session
    let t := (initial id).run actions
    t.Describes s ∧ (t.flows .default).isSome = true ∧
    (∀ p id place,
      (∃ v, VarInt.ofNat? id = some v) ∧ (s.addRtpFlow p id place).2 = .ok () ∨
        VarInt.ofNat? id = none ∧ s.addRtpFlow p id place = (s, .error (.idTooLarge id))) ∧
    (∀ header payload e, header.serialized.result = .error e →
      s.writeRtp header payload = (s, .error e)) ∧
    (∀ header payload bytes, header.serialized.result = .ok bytes →
      (s.writeRtp header payload).1.rtp.map (·.classifier) =
          some (t.classifier.after (t.asked ++ [(header, payload)])) ∧
        ((s.writeRtp header payload).1.transports, (s.writeRtp header payload).2) =
          t.send s.transports (t.classOf header payload) (bytes ++ payload)
            (s.tracker?.map fun g => .tracked g (s.sentPacket header bytes payload))) ∧
    ∀ classes routed, t.classifier = .inTurn classes routed → classes ≠ [] →
      ∀ header payload,
        classes[(routed.toNat + t.asked.length) % UInt64.size % classes.length]? =
          some (t.classOf header payload) := by
  intro s t
  have hdescribes : t.Describes s := Describes.run (describes_initial hstart) hkept
  refine ⟨hdescribes, ?_, ?_, ?_, ?_, ?_⟩
  · obtain ⟨rtp, -, hflows, -⟩ := hdescribes
    rw [← hflows]
    rfl
  · intro p id place
    unfold Session.addRtpFlow Flow.identified
    cases VarInt.ofNat? id with
    | none => exact .inr ⟨rfl, rfl⟩
    | some v => exact .inl ⟨⟨v, rfl⟩, rfl⟩
  · intro header payload e herror
    obtain ⟨rtp, hrtp, -⟩ := hdescribes
    simp [Session.writeRtp, hrtp, herror]
  · intro header payload bytes hbytes
    refine ⟨?_, hdescribes.writeRtp hbytes payload⟩
    obtain ⟨rtp, hrtp, -, hclassifier⟩ := hdescribes
    rw [Session.rtp_writeRtp, hbytes, hrtp, Classifier.after_concat, ← hclassifier]
    rfl
  · intro classes routed hturn hclasses header payload
    unfold classOf
    rw [hturn]
    exact Classifier.classify_inTurn hclasses routed t.asked header payload

/-- Class 1 gets a flow with an id and later, in vain, one whose id is too large; class 0 is bound
to another transport; and packets go to the classes 1, 0 and 2 in turn, the second in vain, as it
has no serialization. -/
def turns : List Action :=
  [.call (.addTransport {}), .call (.addTransport {}), .call (.bindRtp 0), .call (.bindRtp 1),
    .call (.addRtpFlow ⟨1⟩ 7 0), .call (.addRtpFlow ⟨1⟩ (VarInt.maxValue + 1) 1),
    .call (.setClassifier (.inTurn [⟨1⟩, .default, ⟨2⟩] 0)),
    .call (.writeRtp (FixedHeader.toRtpHeader {}) [9]),
    .call (.writeRtp { FixedHeader.toRtpHeader {} with serialized := .broken } [])]

/-- The next packet comes to the transport that class 0 was bound to last, and the one after it has
no way out. -/
theorem routed_in_turn :
    let header := FixedHeader.toRtpHeader {}
    let s := (({ session := {} } : World).run turns).session
    let next := s.writeRtp header [5]
    next.2 = .ok 13 ∧ next.1.recorded 0 = [7 :: FixedHeader.encode {} ++ [9]] ∧
      next.1.recorded 1 = [FixedHeader.encode {} ++ [5]] ∧
      (next.1.writeRtp header []).2 = .error (.noFlowFor ⟨2⟩) := by
  intro header s next
  have hstart : Session.start none {} true lastInstant = .ok {} := rfl
  obtain ⟨-, -, -, -, hwrite, -⟩ := routed_by_table hstart turns (by simp [turns])
  obtain ⟨-, hnext⟩ := hwrite header [5] (FixedHeader.encode {}) rfl
  obtain ⟨-, -, -, -, hlast, -⟩ :=
    routed_by_table hstart (turns ++ [.call (.writeRtp header [5])]) (by simp [turns])
  obtain ⟨-, hunrouted⟩ := hlast header [] (FixedHeader.encode {}) rfl
  have htransports := congrArg Prod.fst hnext
  refine ⟨congrArg Prod.snd hnext, ?_, ?_, congrArg Prod.snd hunrouted⟩
  · exact congrArg (recordedAt · 0) htransports
  · exact congrArg (recordedAt · 1) htransports

end RoutingTable

end MediaMux
