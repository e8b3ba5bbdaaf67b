import MediaMux.Proofs.Session.Recordings

/-!
# Compound packets

The packets of a compound are serialized into one buffer, one after the other, until one fails
(`Assembly`). A packet that fails may have appended bytes, but no transport gets to see them: the
buffer is offered only when all packets are in it, and then once and whole
(`Session.compound_all_or_nothing`).
-/

namespace MediaMux

open Feedback

/-! ### Serializing into a buffer -/

/-- A buffer that packets are serialized into: what it holds, the packets that were asked for their
bytes, and the failure that ended it. -/
structure Assembly where
  buffer : Bytes := []
  asked : List Serialized := []
  failure : Option String := none
deriving DecidableEq

namespace Assembly

/-- Asks a packet, which may have appended bytes when it fails. -/
def ask (a : Assembly) (p : Serialized) : Assembly where
  buffer := a.buffer ++ p.bytes
  asked := a.asked ++ [p]
  failure := p.failure

/-- Asks the packets in turn, until one fails. -/
def askAll (a : Assembly) : List Serialized → Assembly
  | [] => a
  | p :: rest =>
    match p.failure with
    | none => (a.ask p).askAll rest
    | some _ => a.ask p

def result (a : Assembly) : Except FlowError Bytes :=
  match a.failure with
  | none => .ok a.buffer
  | some cause => .error (.unserializable cause)

variable {a : Assembly} {packets : List Serialized}

theorem askAll_of_serialized (ha : a.failure = none) (h : ∀ p ∈ packets, p.failure = none) :
    a.askAll packets = ⟨a.buffer ++ packets.flatMap (·.bytes), a.asked ++ packets, none⟩ := by
  induction packets generalizing a with
  | nil =>
    obtain ⟨buffer, asked, failure⟩ := a
    cases ha
    simp [askAll]
  | cons p rest ih =>
    have hp := h p List.mem_cons_self
    have hrest := ih (a := a.ask p) hp fun q hq => h q (List.mem_cons_of_mem _ hq)
    rw [askAll, hp, hrest]
    simp [ask]

theorem askAll_of_failing {before after : List Serialized} {p : Serialized} {cause : String}
    (hbefore : ∀ q ∈ before, q.failure = none) (hp : p.failure = some cause) :
    a.askAll (before ++ p :: after) =
      ⟨a.buffer ++ (before.flatMap (·.bytes) ++ p.bytes), a.asked ++ (before ++ [p]),
        some cause⟩ := by
  induction before generalizing a with
  | nil => simp [askAll, ask, hp]
  | cons q rest ih =>
    have hq := hbefore q List.mem_cons_self
    have hrest := ih (a := a.ask q) fun x hx => hbefore x (List.mem_cons_of_mem _ hx)
    rw [List.cons_append, askAll, hq, hrest]
    simp [ask]

theorem result_askAll (ha : a.failure = none) (packets : List Serialized) :
    (a.askAll packets).result = (Serialized.concat packets).map (a.buffer ++ ·) := by
  induction packets generalizing a with
  | nil => simp [askAll, result, ha, Serialized.concat, Except.map]
  | cons p rest ih =>
    cases hp : p.failure with
    | some cause =>
      have hresult : p.result = .error (.unserializable cause) := by simp [Serialized.result, hp]
      simp only [askAll, hp, result, ask, Serialized.concat, hresult]
      rfl
    | none =>
      have hresult : p.result = .ok p.bytes := by simp [Serialized.result, hp]
      have hstep : a.askAll (p :: rest) = (a.ask p).askAll rest := by simp only [askAll, hp]
      rw [hstep, ih (a := a.ask p) hp, Serialized.concat, hresult]
      cases Serialized.concat rest with
      | error e => rfl
      | ok more => exact congrArg Except.ok (List.append_assoc _ _ _)

end Assembly

/-- The packets of a compound as they are serialized. -/
def Serialized.assemble (packets : List Serialized) : Assembly := Assembly.askAll {} packets

theorem Serialized.concat_eq (packets : List Serialized) :
    concat packets = (assemble packets).result := by
  rw [assemble, Assembly.result_askAll rfl]
  cases concat packets <;> rfl

/-- Of packets that do not all serialize there is a first one that fails. -/
theorem Serialized.exists_first_failing {packets : List Serialized}
    (h : ∃ p ∈ packets, p.failure ≠ none) :
    ∃ before p after cause, packets = before ++ p :: after ∧
      (∀ q ∈ before, q.failure = none) ∧ p.failure = some cause := by
  induction packets with
  | nil => simp at h
  | cons p rest ih =>
    cases hp : p.failure with
    | some cause => exact ⟨[], p, rest, cause, rfl, by simp, hp⟩
    | none =>
      have hrest : ∃ q ∈ rest, q.failure ≠ none := by simpa [hp] using h
      obtain ⟨before, q, after, cause, rfl, hbefore, hq⟩ := ih hrest
      exact ⟨p :: before, q, after, cause, rfl, List.forall_mem_cons.mpr ⟨hp, hbefore⟩, hq⟩

/-! ### Offering a compound packet -/

def JournalEntry.offered : Except TransportError Nat → JournalEntry
  | .ok n => .sent n
  | .error _ => .refused

/-- The metrics when a compound packet was put together and offered. -/
def Metrics.withCompound (m : Metrics) : Except TransportError Nat → Metrics
  | .ok n => { m with compounds := m.compounds + 1, writes := m.writes + 1, bytes := m.bytes + n }
  | .error _ => { m with compounds := m.compounds + 1, refusedWrites := m.refusedWrites + 1 }

theorem Journal.metrics_compound (j : Journal) :
    metrics (.compound :: j) = { j.metrics with compounds := j.metrics.compounds + 1 } := by
  simp [metrics, total]

theorem Journal.metrics_offered (j : Journal) (outcome : Except TransportError Nat) :
    metrics (.offered outcome :: .compound :: j) = j.metrics.withCompound outcome := by
  cases outcome with
  | ok n => simp [JournalEntry.offered, Metrics.withCompound, metrics, total, Nat.add_comm]
  | error e => simp [JournalEntry.offered, Metrics.withCompound, metrics, total]

namespace Session

/-- A compound packet was offered to the transport `t` at `place` as `buffer`, once and without a
notifier: what that has changed, and the outcome. -/
structure Offered (s : Session) (place : Nat) (t : Transport Watcher) (buffer : Bytes)
    (written : Session × Except FlowError Nat) : Prop where
  outcome : written.2 = (t.write buffer).2.mapError .refused
  session : written.1 =
    { s with
      transports := s.transports.set place (t.write buffer).1
      env := { s.env with
        journal := .offered (t.write buffer).2 :: .compound :: s.env.journal } }
  recorded : ∀ q, written.1.recorded q =
    s.recorded q ++ if place = q then taken (t.write buffer).2 buffer else []
  held : written.1.held = s.held
  metrics : written.1.env.journal.metrics = s.env.journal.metrics.withCompound (t.write buffer).2

variable {s : Session} {f : Flow} {place : Nat} {t : Transport Watcher}

theorem writeFlow_of_target (htarget : f.target? s.transports = some (place, t))
    (payload : Bytes) :
    s.writeFlow f payload =
      ({ s with transports := s.transports.set place (t.write (f.frame payload)).1 }.log
          (.offered (t.write (f.frame payload)).2),
        (t.write (f.frame payload)).2.mapError .refused) := by
  simp only [writeFlow, Flow.write, htarget]
  cases (t.write (f.frame payload)).2 <;> rfl

theorem writeFlow_of_unbound (htarget : f.target? s.transports = none) (payload : Bytes) :
    s.writeFlow f payload = (s, .error .unbound) := by
  simp only [writeFlow, Flow.write, htarget]

theorem offered_writeFlow (htarget : f.target? s.transports = some (place, t))
    (payload : Bytes) :
    s.Offered place t (f.frame payload) ((s.log .compound).writeFlow f payload) := by
  have hplace := (Flow.target?_eq_some_iff.mp htarget).1
  have hwrite := writeFlow_of_target (s := s.log .compound) htarget payload
  have hrecorded := recorded_writeFlow (s.log .compound) f payload
  have hheld := held_write f s.transports payload
  rw [Flow.write, htarget] at hheld
  rw [hwrite] at hrecorded ⊢
  simp only [hplace, taken_mapError, Option.some.injEq] at hrecorded
  exact ⟨rfl, rfl, hrecorded, hheld, Journal.metrics_offered _ _⟩

/-- A compound packet is written as a whole or not at all. If all its packets serialize, each was
asked once, and one buffer with the id of the flow and the bytes of all of them is offered to the
transport that the flow is bound to, if it is; the compound is counted in any case. If one does not,
the first that fails is the last that was asked, its failure is the outcome, and the session is as
it was, whatever the buffer holds by then. -/
theorem compound_all_or_nothing (s : Session) (f : Flow) (packets : List Serialized) :
    Serialized.concat packets = (Serialized.assemble packets).result ∧
    ((∀ p ∈ packets, p.failure = none) →
      Serialized.assemble packets = ⟨packets.flatMap (·.bytes), packets, none⟩ ∧
      ((∀ place, f.transport = some place → s.transports[place]? = none) →
        s.writeCompound f packets = (s.log .compound, .error .unbound) ∧
        (s.log .compound).env.journal.metrics =
          { s.env.journal.metrics with compounds := s.env.journal.metrics.compounds + 1 }) ∧
      ∀ place t, f.transport = some place → s.transports[place]? = some t →
        s.Offered place t ((f.id.map VarInt.encode).getD [] ++ packets.flatMap (·.bytes))
          (s.writeCompound f packets)) ∧
    ((∃ p ∈ packets, p.failure ≠ none) →
      ∃ before p after cause, packets = before ++ p :: after ∧
        (∀ q ∈ before, q.failure = none) ∧ p.failure = some cause ∧
        Serialized.assemble packets =
          ⟨before.flatMap (·.bytes) ++ p.bytes, before ++ [p], some cause⟩ ∧
        s.writeCompound f packets = (s, .error (.unserializable cause))) := by
  have hconcat := Serialized.concat_eq packets
  refine ⟨hconcat, ?_, ?_⟩
  · intro hall
    have hassembled : Serialized.assemble packets = ⟨packets.flatMap (·.bytes), packets, none⟩ :=
      Assembly.askAll_of_serialized rfl hall
    rw [hassembled] at hconcat
    have hwrite : s.writeCompound f packets =
        (s.log .compound).writeFlow f (packets.flatMap (·.bytes)) := by
      rw [writeCompound, hconcat]
      rfl
    rw [hwrite]
    refine ⟨hassembled, fun hnone => ?_, fun place t hplace ht => ?_⟩
    · have hunbound : f.target? (s.log .compound).transports = none :=
        Flow.target?_eq_none_iff.mpr hnone
      exact ⟨writeFlow_of_unbound hunbound _, Journal.metrics_compound _⟩
    · exact offered_writeFlow (Flow.target?_eq_some_iff.mpr ⟨hplace, ht⟩) _
  · intro hsome
    obtain ⟨before, p, after, cause, rfl, hbefore, hp⟩ := Serialized.exists_first_failing hsome
    have hassembled : Serialized.assemble (before ++ p :: after) =
        ⟨before.flatMap (·.bytes) ++ p.bytes, before ++ [p], some cause⟩ :=
      Assembly.askAll_of_failing hbefore hp
    refine ⟨before, p, after, cause, rfl, hbefore, hp, hassembled, ?_⟩
    rw [hassembled] at hconcat
    rw [writeCompound, hconcat]
    rfl

/-- A flow with the id 5, bound to the first transport. -/
def sideChannel : Flow := { id := some ⟨5, by decide⟩, transport := some 0 }

/-- A packet that fails after two of its bytes. -/
def halfWritten : Serialized := { bytes := [0x80, 0xc9], failure := some "too long" }

/-- A transport takes a compound of two packets as one buffer, after the id, and the next one
refuses it, which is counted all the same. Of a compound with a packet that fails in the middle no
transport hears, though the buffer holds three bytes. -/
theorem compound_refused_or_failing :
    let s : Session := { transports := [{}, { refusals := [⟨.wouldBlock, none⟩] }] }
    let packets : List Serialized := [{ bytes := [0x81, 0xc9] }, { bytes := [0x81] }]
    let taken := s.writeCompound sideChannel packets
    let refused := s.writeCompound { sideChannel with transport := some 1 } packets
    let failing := [{ bytes := [0x81] }, halfWritten, { bytes := [0x82] }]
    taken.2 = .ok 4 ∧ taken.1.recorded 0 = [[0x05, 0x81, 0xc9, 0x81]] ∧
      taken.1.env.journal.metrics.compounds = 1 ∧
      refused.2 = .error (.refused ⟨.wouldBlock, none⟩) ∧ refused.1.recorded 1 = [] ∧
      refused.1.env.journal.metrics.compounds = 1 ∧
      refused.1.env.journal.metrics.refusedWrites = 1 ∧
      (Serialized.assemble failing).buffer = [0x81, 0x80, 0xc9] ∧
      s.writeCompound sideChannel failing = (s, .error (.unserializable "too long")) := by
  intro s packets taken refused failing
  obtain ⟨-, hall, -⟩ := s.compound_all_or_nothing sideChannel packets
  have htaken := (hall (by decide)).2.2 0 {} rfl rfl
  obtain ⟨-, hall', -⟩ :=
    s.compound_all_or_nothing { sideChannel with transport := some 1 } packets
  have hrefused := (hall' (by decide)).2.2 1 { refusals := [⟨.wouldBlock, none⟩] } rfl rfl
  obtain ⟨-, -, hsome⟩ := s.compound_all_or_nothing sideChannel failing
  obtain ⟨before, p, after, cause, hpackets, hbefore, hp, hassembled, hwrite⟩ :=
    hsome ⟨halfWritten, by decide, by decide⟩
  obtain rfl : cause = "too long" := by
    have hfailure := congrArg Assembly.failure hassembled
    exact (Option.some.inj hfailure).symm
  exact ⟨htaken.outcome, htaken.recorded 0, congrArg Metrics.compounds htaken.metrics,
    hrefused.outcome, hrefused.recorded 1, congrArg Metrics.compounds hrefused.metrics,
    congrArg Metrics.refusedWrites hrefused.metrics, rfl, hwrite⟩

end Session

end MediaMux
