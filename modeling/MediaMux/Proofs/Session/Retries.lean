import MediaMux.Proofs.Session.Refusals
import MediaMux.Proofs.Session.RoutingTable

/-!
# Writes that are repeated

A write that fails leaves the flows, the transports and feedback as they are, so when it is repeated
only the class of the packet can be another. After a mistake in the set-up the repetitions fail the
same way just in case the mistake is the same for every class that the packet gets
(`Session.mistake_persists_iff`). That goes without saying unless the classifier has a memory.
-/

namespace MediaMux

/-! ### Classes -/

namespace Classifier

variable {P : Priority → Prop} {header : RtpHeader} {payload : Bytes}

/-- The class that a packet gets when it comes again after `n` times. -/
def classAgain (p : Classifier) (header : RtpHeader) (payload : Bytes) (n : Nat) : Priority :=
  ((p.after (List.replicate n (header, payload))).classify header payload).1

/-- A classifier without a memory gives a packet the same class again. -/
theorem classAgain_of_memoryless {p : Classifier}
    (h : ∀ header payload, (p.classify header payload).2 = p) (n : Nat) :
    p.classAgain header payload n = (p.classify header payload).1 := by
  have hsame : p.after (List.replicate n (header, payload)) = p := by
    induction n with
    | zero => rfl
    | succ n ih => rw [List.replicate_succ', after_concat, ih, h]
  rw [classAgain, hsame]

theorem after_byRecord (rule : List (RtpHeader × Bytes) → RtpHeader → Bytes → Priority)
    (before asked : List (RtpHeader × Bytes)) :
    (byRecord rule before).after asked = byRecord rule (before ++ asked) := by
  induction asked generalizing before with
  | nil => simp [after]
  | cons x rest ih => exact (ih (before ++ [x])).trans (by rw [List.append_assoc]; rfl)

/-- Taking turns gives every class in time, as far as 64 bits count. -/
theorem forall_classAgain_inTurn {classes : List Priority} (h : classes ≠ []) (routed : UInt64) :
    (∀ n, P ((inTurn classes routed).classAgain header payload n)) ↔
      ∀ p ∈ classes.take UInt64.size, P p := by
  have hclass : ∀ n, classes[(routed.toNat + n) % UInt64.size % classes.length]? =
      some ((inTurn classes routed).classAgain header payload n) := by
    intro n
    have hturn := classify_inTurn h routed (List.replicate n (header, payload)) header payload
    rwa [List.length_replicate] at hturn
  constructor
  · intro hall p hp
    obtain ⟨i, hi, rfl⟩ := List.mem_take_iff_getElem.mp hp
    obtain ⟨hsize, hlength⟩ := Nat.lt_min.mp hi
    -- after so many packets the counter has come round to `i`
    have hturn := hclass (UInt64.size - routed.toNat + i)
    have hlt := routed.toNat_lt_size
    have hsum : routed.toNat + (UInt64.size - routed.toNat + i) = i + UInt64.size := by omega
    rw [hsum, Nat.add_mod_right, Nat.mod_eq_of_lt hsize, Nat.mod_eq_of_lt hlength,
      List.getElem?_eq_getElem hlength] at hturn
    exact Option.some.inj hturn ▸ hall _
  · intro hall n
    refine hall _ (List.mem_take_iff_getElem.mpr ?_)
    obtain ⟨hlt, hget⟩ := List.getElem?_eq_some_iff.mp (hclass n)
    have hcount : (routed.toNat + n) % UInt64.size % classes.length < UInt64.size :=
      Nat.lt_of_le_of_lt (Nat.mod_le _ _) (Nat.mod_lt _ (by decide))
    exact ⟨_, by omega, hget⟩

end Classifier

/-! ### Mistakes -/

theorem FlowError.refused_ne_of_mistake {e : FlowError} (he : e.isSetupMistake = true)
    (cause : TransportError) : refused cause ≠ e := by
  rintro rfl
  cases he

namespace Flow

variable {ω : Type} {f : Flow} {ts : List (Transport ω)} {payload : Bytes} {e : FlowError}

/-- What does not change about the transport of a flow, if it is bound. -/
def traits? (f : Flow) (ts : List (Transport ω)) : Option TransportTraits :=
  (f.target? ts).map (·.2.traits)

theorem traits?_eq (f : Flow) (ts : List (Transport ω)) :
    f.traits? ts = f.transport.bind fun place => (ts.map Transport.traits)[place]? := by
  unfold traits? target?
  cases f.transport with
  | none => rfl
  | some place =>
    simp only [Option.bind_eq_bind, Option.bind_some, List.getElem?_map]
    cases ts[place]? <;> rfl

/-- The mistake in the set-up that a write on a flow meets, if any: the flow is not bound, or its
transport does not report delivery, but is to. -/
def mistake? (f : Flow) (ts : List (Transport ω)) (watched : Bool) : Option FlowError :=
  match f.traits? ts with
  | none => some .unbound
  | some traits =>
    if watched && !traits.reportsDelivery then some .deliveryUnobservable else none

theorem write_mistake_iff (he : e.isSetupMistake = true) :
    (f.write ts payload).2 = .error e ↔ f.mistake? ts false = some e := by
  unfold write mistake? traits?
  cases f.target? ts with
  | none => simp
  | some target =>
    obtain ⟨place, t⟩ := target
    cases houtcome : (t.write (f.frame payload)).2 with
    | ok n => simp [houtcome, Except.mapError]
    | error cause => simp [houtcome, Except.mapError, FlowError.refused_ne_of_mistake he]

theorem writeWatched_mistake_iff {watcher : ω} (he : e.isSetupMistake = true) :
    (f.writeWatched ts payload watcher).2 = .error e ↔ f.mistake? ts true = some e := by
  unfold writeWatched mistake? traits?
  cases f.target? ts with
  | none => simp
  | some target =>
    obtain ⟨place, t⟩ := target
    cases haware : t.traits.reportsDelivery with
    | false => simp [haware]
    | true =>
      cases houtcome : (t.writeWatched (f.frame payload) watcher).2 with
      | ok accepted => simp [houtcome, haware, Except.mapError]
      | error cause =>
        simp [houtcome, haware, Except.mapError, FlowError.refused_ne_of_mistake he]

end Flow

namespace Session

variable {s s' : Session} {header : RtpHeader} {payload bytes : Bytes} {e : FlowError}
  {rtp : RtpSender}

def mistake? (s : Session) (p : Priority) : Option FlowError :=
  match s.flow? (.rtp p) with
  | none => some (.noFlowFor p)
  | some f => f.mistake? s.transports s.tracker?.isSome

theorem NoTrace.tracker? (h : NoTrace s s' header payload e) : s'.tracker? = s.tracker? := by
  have hcancelled : s'.env.cancelled = s.env.cancelled :=
    (congrArg Feedback.Environment.cancelled h.env :)
  have htracker : ∀ s : Session, s.tracker? = s.feedback?.bind fun handle =>
      s.reporters[handle.reporter]?.bind fun r =>
        if r.toldToStop s.env then none else some handle.reporter := by
    intro s
    unfold Session.tracker? Session.feedback?
    cases s.rtp <;> rfl
  rw [htracker s', htracker s, h.feedback?, h.reporters]
  unfold Feedback.Reporter.toldToStop
  rw [hcancelled]

/-- A write that fails leaves the mistakes as they are. -/
theorem NoTrace.mistake? (h : NoTrace s s' header payload e) (p : Priority) :
    s'.mistake? p = s.mistake? p := by
  have htraits : s'.transports.map Transport.traits = s.transports.map Transport.traits := by
    have hsame := congrArg (List.map Transport.traits) h.transports
    rwa [List.map_map, List.map_map] at hsame
  unfold Session.mistake? Flow.mistake?
  simp only [flow?_rtp, Flow.traits?_eq, h.table?, h.tracker?, htraits]

/-- A write fails because of the mistake that the class of the packet meets, and of no other. -/
theorem writeRtp_mistake_iff (hrtp : s.rtp = some rtp)
    (hbytes : header.serialized.result = .ok bytes) (he : e.isSetupMistake = true) :
    (s.writeRtp header payload).2 = .error e ↔
      s.mistake? (rtp.classifier.classify header payload).1 = some e := by
  have hflow : s.flow? (.rtp (rtp.classifier.classify header payload).1) =
      rtp.table.get? (rtp.classifier.classify header payload).1 := by
    rw [flow?_rtp, table?, hrtp]
    rfl
  have hrouted := s.routed_writeRtp header payload
  generalize s.writeRtp header payload = written at hrouted ⊢
  unfold mistake?
  rw [hflow]
  cases hrouted with
  | unbound hnone => cases hrtp.symm.trans hnone
  | unserializable herror => cases hbytes.symm.trans herror
  | unrouted hsame _ hnone =>
    cases hrtp.symm.trans hsame
    simp [hnone]
  | @plain _ bytes f hsame _ hsome htracker =>
    cases hrtp.symm.trans hsame
    have hwrite := congrArg Prod.snd
      (transports_writeFlow (s.classified rtp header payload) f (bytes ++ payload))
    rw [hsome, htracker]
    exact (Eq.congr_left hwrite).trans (Flow.write_mistake_iff he)
  | @watched _ bytes f g hsame _ hsome htracker =>
    cases hrtp.symm.trans hsame
    have hwrite := congrArg Prod.snd
      (transports_writeFlowWatched { s.classified rtp header payload with env := s.env.now.2 } f
        (bytes ++ payload) (.tracked g (s.sentPacket header bytes payload)))
    have hwatched : ∀ outcome : Except FlowError (Nat × Option Delivery),
        outcome.map Prod.fst = .error e ↔ outcome = .error e := by
      rintro (cause | accepted) <;> simp [Except.map]
    rw [hsome, htracker]
    exact (Eq.congr_left hwrite).trans
      ((hwatched _).trans (Flow.writeWatched_mistake_iff he))

theorem serialized_of_mistake (hrtp : s.rtp = some rtp)
    (hfails : (s.writeRtp header payload).2 = .error e) (he : e.isSetupMistake = true) :
    ∃ bytes, header.serialized.result = .ok bytes := by
  cases hresult : header.serialized.result with
  | ok bytes => exact ⟨bytes, rfl⟩
  | error e' =>
    have hwrite : s.writeRtp header payload = (s, .error e') := by simp [writeRtp, hrtp, hresult]
    rw [hwrite] at hfails
    cases hfails
    obtain ⟨cause, rfl⟩ := Serialized.result_eq_error hresult
    cases he

/-! ### Repetitions -/

def rewritten (s : Session) (header : RtpHeader) (payload : Bytes) : Nat → Session
  | 0 => s
  | n + 1 => ((s.rewritten header payload n).writeRtp header payload).1

theorem rewritten_of_failing (hrtp : s.rtp = some rtp)
    (hbytes : header.serialized.result = .ok bytes) {n : Nat}
    (hfails : ∀ k < n, ∃ e, ((s.rewritten header payload k).writeRtp header payload).2 = .error e) :
    (s.rewritten header payload n).rtp =
        some { rtp with classifier := rtp.classifier.after (List.replicate n (header, payload)) } ∧
      ∀ p, (s.rewritten header payload n).mistake? p = s.mistake? p := by
  induction n with
  | zero => exact ⟨hrtp, fun _ => rfl⟩
  | succ n ih =>
    obtain ⟨hbefore, hmistakes⟩ := ih fun k hk => hfails k (Nat.lt_succ_of_lt hk)
    obtain ⟨e, he⟩ := hfails n (Nat.lt_succ_self n)
    have htrace := noTrace_writeRtp he
    refine ⟨?_, fun p => (htrace.mistake? p).trans (hmistakes p)⟩
    rw [rewritten, rtp_writeRtp, hbytes, hbefore, List.replicate_succ', Classifier.after_concat]
    rfl

/-- After writes that failed, whatever the reasons, the next one fails because of the mistake that
the class meets that the packet gets now. -/
theorem mistake_again_iff (hrtp : s.rtp = some rtp)
    (hbytes : header.serialized.result = .ok bytes) (he : e.isSetupMistake = true) {n : Nat}
    (hfails : ∀ k < n, ∃ e, ((s.rewritten header payload k).writeRtp header payload).2 = .error e) :
    ((s.rewritten header payload n).writeRtp header payload).2 = .error e ↔
      s.mistake? (rtp.classifier.classAgain header payload n) = some e := by
  obtain ⟨hafter, hmistakes⟩ := rewritten_of_failing hrtp hbytes hfails
  rw [writeRtp_mistake_iff hafter hbytes he, hmistakes]
  rfl

theorem mistake_always_iff (hrtp : s.rtp = some rtp)
    (hbytes : header.serialized.result = .ok bytes) (he : e.isSetupMistake = true) :
    (∀ n, ((s.rewritten header payload n).writeRtp header payload).2 = .error e) ↔
      ∀ n, s.mistake? (rtp.classifier.classAgain header payload n) = some e := by
  constructor
  · intro hall n
    exact (mistake_again_iff hrtp hbytes he fun k _ => ⟨e, hall k⟩).mp (hall n)
  · intro hall n
    induction n using Nat.strong_induction_on with
    | _ n ih => exact (mistake_again_iff hrtp hbytes he fun k hk => ⟨e, ih k hk⟩).mpr (hall n)

/-- When a write fails because of a mistake in the set-up, its repetitions fail the same way, if the
classifier has no memory. If classes take turns, they do just in case all that the counter comes to
meet the same mistake, and if a rule goes by its record, just in case every class that it gives
does. -/
theorem mistake_persists_iff (hrtp : s.rtp = some rtp)
    (hfails : (s.writeRtp header payload).2 = .error e) (he : e.isSetupMistake = true) :
    (∀ n, ((s.rewritten header payload n).writeRtp header payload).2 = .error e) ↔
      match rtp.classifier with
      | .uniform | .byMarker _ | .byRule _ => True
      | .inTurn classes _ => ∀ p ∈ classes.take UInt64.size, s.mistake? p = some e
      | .byRecord rule asked => ∀ n,
        s.mistake? (rule (asked ++ List.replicate n (header, payload)) header payload) =
          some e := by
  obtain ⟨bytes, hbytes⟩ := serialized_of_mistake hrtp hfails he
  have hfirst := (writeRtp_mistake_iff hrtp hbytes he).mp hfails
  rw [mistake_always_iff hrtp hbytes he]
  have hmemoryless (h : ∀ header payload, (rtp.classifier.classify header payload).2 =
      rtp.classifier) (n : Nat) :
      s.mistake? (rtp.classifier.classAgain header payload n) = some e := by
    rw [Classifier.classAgain_of_memoryless h]
    exact hfirst
  cases hclassifier : rtp.classifier with
  | uniform | byMarker | byRule =>
    rw [hclassifier] at hmemoryless
    exact iff_true_intro (hmemoryless fun _ _ => rfl)
  | inTurn classes routed =>
    cases classes with
    | nil =>
      rw [hclassifier] at hmemoryless
      exact iff_of_true (hmemoryless fun _ _ => rfl) (by simp)
    | cons c classes =>
      exact Classifier.forall_classAgain_inTurn (P := fun p => s.mistake? p = some e)
        (List.cons_ne_nil c classes) routed
  | byRecord rule asked =>
    simp only [Classifier.classAgain, Classifier.after_byRecord, Classifier.classify]

/-- Packets are tracked, and go in turn to two classes whose transport does not report delivery. -/
def unaware : Session :=
  (({ session := {} } : World).run
    [.call (.addTransport {}), .call (.bindRtp 0), .call (.addRtpFlow ⟨1⟩ 7 0),
      .call (.setClassifier (.inTurn [⟨1⟩, .default] 0)),
      .call (.addSink (.takingFirst none)), .call (.startFeedback 1 {} .shared 0 none)]).session

/-- Whichever class has its turn, the packet cannot be tracked. -/
theorem deliveryUnobservable_persists :
    let header := FixedHeader.toRtpHeader {}
    (unaware.writeRtp header []).2 = .error .deliveryUnobservable ∧
      ∀ n, ((unaware.rewritten header [] n).writeRtp header []).2 =
        .error .deliveryUnobservable := by
  intro header
  have hfails : (unaware.writeRtp header []).2 = .error .deliveryUnobservable := by decide
  have hclasses : ∀ p ∈ [⟨1⟩, Priority.default],
      unaware.mistake? p = some .deliveryUnobservable := by decide
  refine ⟨hfails, (mistake_persists_iff rfl hfails rfl).mpr ?_⟩
  intro p hp
  exact hclasses p (List.mem_of_mem_take hp)

/-- Classes 1 and 0 take turns, but only class 0 has a flow. The first write of a packet finds that
its class has none, and the second one, of the same packet, goes through. -/
theorem mistake_passes :
    let header := FixedHeader.toRtpHeader {}
    let s := (({ session := {} } : World).run
      [.call (.addTransport {}), .call (.bindRtp 0),
        .call (.setClassifier (.inTurn [⟨1⟩, .default] 0))]).session
    (FlowError.noFlowFor ⟨1⟩).isSetupMistake = true ∧
      (s.writeRtp header []).2 = .error (.noFlowFor ⟨1⟩) ∧
      ((s.rewritten header [] 1).writeRtp header []).2 = .ok 12 := by
  decide

end Session

end MediaMux
