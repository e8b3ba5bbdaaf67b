import Mathlib.Data.List.Infix
import MediaMux.Proofs.Session.Bare

/-!
# Feedback does not show on the wire

Calls that are there for feedback, and the steps of reporters, leave the bare session as it is
(`Session.bare_apply_of_feedback`); what the other calls do to it depends on the bare session alone
(`Session.bare_apply`). So two runs that differ only in what is done for feedback agree on
everything on the wire (`World.bare_run`).
-/

namespace MediaMux

open Feedback

/-- Whether the call concerns the wire. The others are there for feedback. -/
def Call.onWire : Call → Bool
  | addTransport _ | script .. | takeBuffers _ | writeRtp .. | writeFlow .. | writeNoted ..
  | writeCompound .. | bindRtp _ | addRtpFlow .. | setClassifier _ | dropRtp => true
  | resolve .. | takeNotes | startFeedback .. | stopFeedback | claimHandle | cancelToken _
  | setReading _ | setClock _ | addSink _ | modifySink .. | pass _ => false

/-- Whether the action concerns the wire. A step of a reporter does not. -/
def Action.onWire : Action → Bool
  | call c => c.onWire
  | proceed _ => false

namespace Session

variable {s s' : Session} {c : Call}

theorem bare_apply_of_feedback (hc : c.onWire = false) :
    (s.apply c).bare = s.bare ∧ s.outcome? c = none := by
  cases c with
  | addTransport | script | takeBuffers | writeRtp | writeFlow | writeNoted | writeCompound
  | bindRtp | addRtpFlow | setClassifier | dropRtp => cases hc
  | resolve place i d => exact ⟨bare_resolve s place i d, rfl⟩
  | startFeedback sender request meter sink parent =>
    exact ⟨bare_startFeedback s sender request meter sink parent, rfl⟩
  | stopFeedback => exact ⟨bare_stopFeedback s, rfl⟩
  | claimHandle =>
    refine ⟨bare_eq rfl rfl ?_, rfl⟩
    show (s.rtp.map _).map _ = _
    rw [Option.map_map]
    rfl
  | takeNotes | cancelToken | setReading | setClock | addSink | modifySink | pass =>
    exact ⟨rfl, rfl⟩

/-! ### Calls on the wire -/

theorem bare_modifyRtp (s : Session) {f : RtpSender → RtpSender}
    (h : ∀ rtp, (f rtp).bare = (f rtp.bare).bare) :
    (s.modifyRtp f).bare = (s.bare.modifyRtp f).bare := by
  have hs := s.bare_bare.symm
  refine bare_eq (congrArg (·.env.journal) hs) (congrArg (·.transports) hs) ?_
  show (s.rtp.map f).map _ = ((s.rtp.map _).map f).map _
  cases s.rtp with
  | none => rfl
  | some rtp => exact congrArg some (h rtp)

theorem bare_modifyTransport_bare (s : Session) (place : Nat)
    {f : Transport Watcher → Transport Watcher} (h : ∀ t, (f t).bare = (f t.bare).bare) :
    (s.modifyTransport place f).bare = (s.bare.modifyTransport place f).bare := by
  have hs := s.bare_bare.symm
  have hbare : ∀ t : Transport Watcher, t.bare.bare = t.bare := fun _ => rfl
  refine bare_eq (congrArg (·.env.journal) hs) ?_ (congrArg (·.rtp) hs)
  show (s.transports.modify place f).map _ = ((s.transports.map _).modify place f).map _
  refine List.ext_getElem? fun i => ?_
  simp only [List.getElem?_map, List.getElem?_modify]
  cases s.transports[i]? with
  | none => simp
  | some t => split <;> simp [h, hbare]

theorem bare_addRtpFlow (s : Session) (p : Priority) (id place : Nat) :
    (s.addRtpFlow p id place).1.bare = (s.bare.addRtpFlow p id place).1.bare := by
  unfold addRtpFlow
  cases Flow.identified id with
  | error e => exact s.bare_bare.symm
  | ok f => exact bare_modifyRtp s fun _ => rfl

theorem bare_dropRtp (s : Session) : s.dropRtp.bare = s.bare.dropRtp.bare := by
  have hs := s.bare_stopFeedback.trans (s.bare_bare.symm.trans s.bare.bare_stopFeedback.symm)
  exact bare_eq (congrArg (·.env.journal) hs) (congrArg (·.transports) hs) rfl

theorem bare_writeCompound (s : Session) (f : Flow) (packets : List Serialized) :
    (s.writeCompound f packets).1.bare = (s.bare.writeCompound f packets).1.bare ∧
      (s.writeCompound f packets).2 = (s.bare.writeCompound f packets).2 := by
  unfold writeCompound
  cases Serialized.concat packets with
  | error e => exact ⟨s.bare_bare.symm, rfl⟩
  | ok payload =>
    dsimp only
    rw [← bare_log s rfl, writeFlow_bare, bare_bare]
    exact ⟨rfl, rfl⟩

theorem bare_writeNoted (s : Session) (f : Flow) (payload : Bytes) (w : Watcher) :
    (s.writeFlowWatched f payload w).1.bare = (s.bare.writeFlowWatched f payload w).1.bare ∧
      (s.writeFlowWatched f payload w).2 = (s.bare.writeFlowWatched f payload w).2 := by
  have hs := s.bare_bare.symm
  obtain ⟨hleft, hleftOutcome⟩ := s.bare_writeFlowWatched f payload w
  obtain ⟨hright, hrightOutcome⟩ := s.bare.bare_writeFlowWatched f payload w
  obtain ⟨htransports, houtcome⟩ := f.writeWatched_bare s.transports payload w
  have hsame : (f.writeWatched s.bare.transports payload w).2 =
      (f.writeWatched s.transports payload w).2 := houtcome
  rw [hleft, hleftOutcome, hright, hrightOutcome, hsame]
  refine ⟨congrArg (account · _) ?_, rfl⟩
  exact bare_eq (congrArg (·.env.journal) hs) htransports.symm (congrArg (·.rtp) hs)

/-- On the wire a call does to a session what it does to the bare one. -/
theorem bare_apply (h : s.Watchable) (hc : c.onWire = true) :
    (s.apply c).bare = (s.bare.apply c).bare ∧ s.outcome? c = s.bare.outcome? c := by
  cases c with
  | resolve | takeNotes | startFeedback | stopFeedback | claimHandle | cancelToken | setReading
  | setClock | addSink | modifySink | pass => cases hc
  | writeRtp header payload =>
    obtain ⟨hbare, houtcome⟩ := writeRtp_bare h header payload
    have hidle := congrArg bare hbare
    rw [bare_bare] at hidle
    exact ⟨hidle, congrArg some houtcome⟩
  | writeFlow f payload =>
    have hwrite := s.writeFlow_bare f payload
    refine ⟨?_, congrArg some (congrArg Prod.snd hwrite).symm⟩
    show (s.writeFlow f payload).1.bare = (s.bare.writeFlow f payload).1.bare
    rw [hwrite, bare_bare]
  | writeNoted f payload tag =>
    obtain ⟨hbare, houtcome⟩ := s.bare_writeNoted f payload (.noted tag)
    exact ⟨hbare, congrArg some houtcome⟩
  | writeCompound f packets =>
    obtain ⟨hbare, houtcome⟩ := s.bare_writeCompound f packets
    exact ⟨hbare, congrArg some houtcome⟩
  | addTransport traits =>
    have hs := s.bare_bare.symm
    refine ⟨bare_eq (congrArg (·.env.journal) hs) ?_ (congrArg (·.rtp) hs), rfl⟩
    have htransports := congrArg (·.transports) hs
    show (s.transports ++ _).map _ = (s.transports.map _ ++ _).map _
    rw [List.map_append, List.map_append]
    exact congrArg (· ++ _) htransports
  | script place traits refusals => exact ⟨bare_modifyTransport_bare s place fun _ => rfl, rfl⟩
  | takeBuffers place => exact ⟨bare_modifyTransport_bare s place fun _ => rfl, rfl⟩
  | bindRtp place => exact ⟨bare_modifyRtp s fun _ => rfl, rfl⟩
  | setClassifier classifier => exact ⟨bare_modifyRtp s fun _ => rfl, rfl⟩
  | addRtpFlow p id place => exact ⟨bare_addRtpFlow s p id place, rfl⟩
  | dropRtp => exact ⟨bare_dropRtp s, rfl⟩

theorem watchable_bare : s.bare.Watchable ↔ s.Watchable := by
  have hflow : ∀ p, s.bare.flow? (.rtp p) = s.flow? (.rtp p) := by
    intro p
    unfold flow? bare
    cases s.rtp <;> rfl
  have htarget : ∀ f : Flow, f.target? s.bare.transports = _ :=
    fun f => f.target?_bare s.transports
  constructor
  · intro h p f place t hf ht
    refine Transport.alike_bare.mp (h p f place t.bare ((hflow p).trans hf) ?_)
    rw [htarget, ht]
    rfl
  · intro h p f place t hf ht
    rw [hflow] at hf
    rw [htarget] at ht
    obtain ⟨⟨place', t'⟩, ht', heq⟩ := Option.map_eq_some_iff.mp ht
    cases heq
    exact Transport.alike_bare.mpr (h p f place' t' hf ht')

/-- Sessions that agree on the wire do the same in a call on the wire. -/
theorem bare_apply_congr (hbare : s.bare = s'.bare) (h : s'.Watchable) (hc : c.onWire = true) :
    (s.apply c).bare = (s'.apply c).bare ∧ s.outcome? c = s'.outcome? c := by
  have hs : s.Watchable := by
    rw [← watchable_bare, hbare, watchable_bare]
    exact h
  obtain ⟨hleft, hleftOutcome⟩ := bare_apply hs hc
  obtain ⟨hright, hrightOutcome⟩ := bare_apply h hc
  rw [hleft, hright, hleftOutcome, hrightOutcome, hbare]
  exact ⟨rfl, rfl⟩

/-- Transports whose scripted refusals count for every buffer, and that are aware of delivery. -/
theorem watchable_of_traits
    (h : ∀ t ∈ s.transports, t.traits.reportsDelivery = true ∧ t.traits.refusesPlain = true) :
    s.Watchable := by
  intro p f place t _ ht
  obtain ⟨-, hplace⟩ := Flow.target?_eq_some_iff.mp ht
  obtain ⟨haware, hplain⟩ := h t (List.mem_of_getElem? hplace)
  exact Transport.alike_of_traits haware hplain

end Session

/-! ### Runs -/

/-- The metrics on writes do not count what is on a reporter. -/
theorem Journal.metrics_onWire (j : Journal) :
    j.onWire.metrics.writes = j.metrics.writes ∧ j.onWire.metrics.bytes = j.metrics.bytes ∧
      j.onWire.metrics.refusedWrites = j.metrics.refusedWrites := by
  unfold metrics
  induction j with
  | nil => exact ⟨rfl, rfl, rfl⟩
  | cons e j ih =>
    obtain ⟨hwrites, hbytes, hrefused⟩ := ih
    dsimp only at hwrites hbytes hrefused ⊢
    cases e <;> simp [onWire_cons, total, hwrites, hbytes, hrefused]

namespace World

/-- The outcomes of all writes of a run. -/
def outcomes (w : World) : List Action → List (Except FlowError Nat)
  | [] => []
  | a :: rest =>
    (match a with
      | .call c => (w.session.outcome? c).toList
      | .proceed _ => []) ++ (w.step a).outcomes rest

theorem bare_step_of_feedback {w : World} {a : Action} (ha : a.onWire = false) :
    (w.step a).session.bare = w.session.bare ∧
      ∀ rest, w.outcomes (a :: rest) = (w.step a).outcomes rest := by
  cases a with
  | call c =>
    obtain ⟨hbare, houtcome⟩ := Session.bare_apply_of_feedback (s := w.session) ha
    refine ⟨hbare, fun rest => ?_⟩
    rw [outcomes, houtcome]
    rfl
  | proceed g =>
    obtain ⟨htransports, hrtp⟩ := w.wire_proceed g
    have hjournal := (w.journal_proceed g).onWire_eq fun e he => by
      cases e <;> simp at he ⊢
    exact ⟨Session.bare_eq hjournal (congrArg _ htransports) (congrArg _ hrtp), fun rest => rfl⟩

/-- A run and the run of its actions on the wire, from worlds that agree on the wire. -/
theorem bare_run {w w' : World} (actions : List Action) (hbare : w.session.bare = w'.session.bare)
    (h : ∀ before, before <+: actions.filter Action.onWire → (w'.run before).session.Watchable) :
    (w.run actions).session.bare = (w'.run (actions.filter Action.onWire)).session.bare ∧
      w.outcomes actions = w'.outcomes (actions.filter Action.onWire) := by
  induction actions generalizing w w' with
  | nil => exact ⟨hbare, rfl⟩
  | cons a rest ih =>
    by_cases ha : a.onWire = true
    · rw [List.filter_cons_of_pos ha] at h ⊢
      cases a with
      | proceed g => cases ha
      | call c =>
        have hnow : w'.session.Watchable := h [] List.nil_prefix
        obtain ⟨hstep, houtcome⟩ := Session.bare_apply_congr hbare hnow ha
        obtain ⟨hrun, houtcomes⟩ := @ih (w.step (.call c)) (w'.step (.call c)) hstep
          fun before hbefore => h (.call c :: before) (List.cons_prefix_cons.mpr ⟨rfl, hbefore⟩)
        refine ⟨hrun, ?_⟩
        rw [outcomes, outcomes, houtcomes, houtcome]
    · have hoff : a.onWire = false := Bool.eq_false_iff.mpr ha
      rw [List.filter_cons_of_neg ha] at h ⊢
      obtain ⟨hstep, houtcomes⟩ := w.bare_step_of_feedback hoff
      rw [houtcomes]
      exact ih (hstep.trans hbare) h

/-- Whatever is done for feedback during a run does not show on the wire, if the transports of RTP
packets treat buffers with a notifier and without one alike: the outcome of every write, what each
transport records, the flows with their classifier and what is counted of writes are as they are
when nothing is done for feedback. -/
theorem feedback_off_the_wire (w : World) (actions : List Action)
    (h : ∀ before, before <+: actions.filter Action.onWire → (w.run before).session.Watchable) :
    let full := (w.run actions).session
    let plain := (w.run (actions.filter Action.onWire)).session
    w.outcomes actions = w.outcomes (actions.filter Action.onWire) ∧
      full.transports.map (·.buffers) = plain.transports.map (·.buffers) ∧
      full.rtp.map (·.classifier) = plain.rtp.map (·.classifier) ∧
      full.table? = plain.table? ∧
      full.env.journal.metrics.writes = plain.env.journal.metrics.writes ∧
      full.env.journal.metrics.bytes = plain.env.journal.metrics.bytes ∧
      full.env.journal.metrics.refusedWrites = plain.env.journal.metrics.refusedWrites := by
  intro full plain
  obtain ⟨hbare, houtcomes⟩ := bare_run actions rfl h
  have hbuffers : ∀ s : Session,
      s.bare.transports.map (·.buffers) = s.transports.map (·.buffers) :=
    fun s => List.map_map
  have hrtp : ∀ {α : Type} (s : Session) (g : RtpSender → α), (∀ rtp, g rtp.bare = g rtp) →
      s.bare.rtp.map g = s.rtp.map g := by
    intro α s g hg
    show (s.rtp.map _).map g = _
    rw [Option.map_map]
    exact Option.map_congr fun rtp _ => hg rtp
  obtain ⟨hwrites, hbytes, hrefused⟩ := Journal.metrics_onWire full.env.journal
  obtain ⟨hwrites', hbytes', hrefused'⟩ := Journal.metrics_onWire plain.env.journal
  have hjournal : full.env.journal.onWire = plain.env.journal.onWire :=
    congrArg (·.env.journal) hbare
  refine ⟨houtcomes, ?_, ?_, ?_, ?_, ?_, ?_⟩
  · rw [← hbuffers full, ← hbuffers plain, hbare]
  · rw [← hrtp full _ fun _ => rfl, ← hrtp plain _ fun _ => rfl, hbare]
  · unfold Session.table?
    rw [← hrtp full _ fun _ => rfl, ← hrtp plain _ fun _ => rfl, hbare]
  · rw [← hwrites, ← hwrites', hjournal]
  · rw [← hbytes, ← hbytes', hjournal]
  · rw [← hrefused, ← hrefused', hjournal]

/-- Feedback is started, one packet of three is refused, one is acked, and feedback is stopped. -/
theorem refusal_beside_feedback :
    let actions : List Action :=
      [.call (.addTransport { reportsDelivery := true }), .call (.bindRtp 0),
        .call (.addSink (.takingFirst none)),
        .call (.startFeedback 1 { batch := some 1 } .shared 0 none), .proceed 0,
        .call (.writeRtp (FixedHeader.toRtpHeader {}) [7]),
        .call (.script 0 { reportsDelivery := true } [⟨.wouldBlock, none⟩]),
        .call (.writeRtp (FixedHeader.toRtpHeader {}) []), .call (.resolve 0 0 .acked), .proceed 0,
        .call .stopFeedback, .call (.writeRtp (FixedHeader.toRtpHeader {}) [])]
    let w : World := { session := {} }
    w.outcomes actions = [.ok 13, .error (.refused ⟨.wouldBlock, none⟩), .ok 12] ∧
      w.outcomes (actions.filter Action.onWire) = w.outcomes actions ∧
      (w.run (actions.filter Action.onWire)).session.transports.map (·.buffers) =
        (w.run actions).session.transports.map (·.buffers) := by
  intro actions w
  have hwatchable : ∀ before, before <+: actions.filter Action.onWire →
      (w.run before).session.Watchable := by
    have htraits : ∀ before ∈ (actions.filter Action.onWire).inits,
        ∀ t ∈ (w.run before).session.transports,
          t.traits.reportsDelivery = true ∧ t.traits.refusesPlain = true := by
      decide +kernel
    intro before hbefore
    exact Session.watchable_of_traits (htraits before ((List.mem_inits _ _).mpr hbefore))
  obtain ⟨houtcomes, hbuffers, -⟩ := feedback_off_the_wire w actions hwatchable
  exact ⟨by decide +kernel, houtcomes.symm, hbuffers.symm⟩

end World

end MediaMux
