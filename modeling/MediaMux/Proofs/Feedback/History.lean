import MediaMux.Journal

/-!
# The journal of one reporter

`Journal.of` keeps the entries on one reporter, and `Journal.gather` collects what a selection
finds in them, oldest first. The selections read off what was told to the reporter, what it took
in, and where that went.
-/

namespace MediaMux

open Feedback

namespace JournalEntry

/-- The reporter that an entry is on. -/
@[simp] def reporter? : JournalEntry → Option Nat
  | sent _ => none
  | refused => none
  | compound => none
  | tracked g _ => some g
  | resolved g _ _ => some g
  | acked g _ => some g
  | lost g _ _ => some g
  | evicted g _ => some g
  | sampled g => some g
  | reported g _ _ => some g
  | withdrawn g _ => some g
  | discarded g _ => some g

/-- Whether a reporter makes the entry in a step of its own. -/
@[simp] def isOwn : JournalEntry → Bool
  | sent _ => false
  | refused => false
  | compound => false
  | tracked .. => false
  | resolved .. => false
  | acked .. => true
  | lost .. => true
  | evicted .. => true
  | sampled _ => true
  | reported .. => true
  | withdrawn .. => true
  | discarded .. => true

/-- The packet that was handed over with a notifier. -/
@[simp] def trackedPacket : JournalEntry → List SentPacket
  | tracked _ p => [p]
  | _ => []

/-- The outcome that came in time. -/
@[simp] def toldInTime : JournalEntry → List Outcome
  | resolved _ outcome false => [outcome]
  | _ => []

/-- The outcome that came too late. -/
@[simp] def toldLate : JournalEntry → List Outcome
  | resolved _ outcome true => [outcome]
  | _ => []

/-- The outcome that the reporter took in. -/
@[simp] def takenIn : JournalEntry → List Outcome
  | acked _ a => [.acked a]
  | lost _ ssrc sequenceNumber => [.lost ssrc sequenceNumber]
  | _ => []

/-- The ack that the reporter took in. -/
@[simp] def takenAck : JournalEntry → List Ack
  | acked _ a => [a]
  | _ => []

/-- The source of the loss that the reporter took in. -/
@[simp] def takenLoss : JournalEntry → List Ssrc
  | lost _ ssrc _ => [ssrc]
  | _ => []

/-- The packet that made way, if there was one. -/
@[simp] def evictedPacket : JournalEntry → List (Option SentPacket)
  | evicted _ oldest => [oldest]
  | _ => []

/-- The report that was handed to the sink. -/
@[simp] def handedReport : JournalEntry → List Report
  | reported _ report _ => [report]
  | _ => []

/-- The report that was not handed over. -/
@[simp] def withdrawnReport : JournalEntry → List Report
  | withdrawn _ report => [report]
  | _ => []

/-- The outcomes that were left in the queue. -/
@[simp] def discardedOutcomes : JournalEntry → List Outcome
  | discarded _ outcomes => outcomes
  | _ => []

/-- The question to the meter. -/
@[simp] def question : JournalEntry → List Unit
  | sampled _ => [()]
  | _ => []

theorem isOwn_of_reporter? {e : JournalEntry} (h : e.reporter? = none) : e.isOwn = false := by
  cases e <;> first | rfl | cases h

end JournalEntry

namespace Journal

/-- The entries on the reporter `g`. -/
def of (g : Nat) (j : Journal) : Journal := j.filter fun e => e.reporter? = some g

/-- What `select` finds in the entries, oldest first. -/
def gather {α : Type} (select : JournalEntry → List α) : Journal → List α
  | [] => []
  | e :: older => gather select older ++ select e

@[simp] theorem of_cons (g : Nat) (e : JournalEntry) (j : Journal) :
    of g (e :: j) = if e.reporter? = some g then e :: of g j else of g j := by
  simp only [of, List.filter_cons, decide_eq_true_eq]

theorem of_cons_self {g : Nat} {e : JournalEntry} (he : e.reporter? = some g) (j : Journal) :
    of g (e :: j) = e :: of g j := by
  rw [of_cons, if_pos he]

@[simp] theorem gather_nil {α : Type} (select : JournalEntry → List α) : gather select [] = [] :=
  rfl

@[simp] theorem gather_cons {α : Type} (select : JournalEntry → List α) (e : JournalEntry)
    (j : Journal) : gather select (e :: j) = gather select j ++ select e := rfl

theorem gather_append {α : Type} (select : JournalEntry → List α) (newer older : Journal) :
    gather select (newer ++ older) = gather select older ++ gather select newer := by
  induction newer with
  | nil => simp
  | cons e rest ih => simp [ih]

/-! ### Additions -/

/-- `later` is `earlier` with entries added to it, all of which satisfy `P`. -/
def Extends (P : JournalEntry → Prop) (earlier later : Journal) : Prop :=
  ∃ added, later = added ++ earlier ∧ ∀ e ∈ added, P e

namespace Extends

variable {P Q : JournalEntry → Prop} {j j' j'' : Journal}

theorem refl (P : JournalEntry → Prop) (j : Journal) : Extends P j j := ⟨[], rfl, by simp⟩

theorem trans (h : Extends P j j') (h' : Extends P j' j'') : Extends P j j'' := by
  obtain ⟨added, rfl, hadded⟩ := h
  obtain ⟨more, rfl, hmore⟩ := h'
  refine ⟨more ++ added, by simp, ?_⟩
  intro e he
  rcases List.mem_append.mp he with he | he
  · exact hmore e he
  · exact hadded e he

theorem log (h : Extends P j j') {e : JournalEntry} (he : P e) : Extends P j (e :: j') :=
  h.trans ⟨[e], rfl, by simpa using he⟩

theorem imp (h : Extends P j j') (hPQ : ∀ e, P e → Q e) : Extends Q j j' := by
  obtain ⟨added, rfl, hadded⟩ := h
  exact ⟨added, rfl, fun e he => hPQ e (hadded e he)⟩

theorem of_eq {g : Nat} (h : Extends P j j') (hP : ∀ e, P e → e.reporter? ≠ some g) :
    j'.of g = j.of g := by
  obtain ⟨added, rfl, hadded⟩ := h
  have hnone : added.filter (fun e => decide (e.reporter? = some g)) = [] := by
    refine List.filter_eq_nil_iff.mpr ?_
    intro e he
    simpa only [decide_eq_true_eq] using hP e (hadded e he)
  unfold of
  rw [List.filter_append, hnone, List.nil_append]

theorem of_eq_of_none (h : Extends (fun e => e.reporter? = none) j j') (g : Nat) :
    j'.of g = j.of g :=
  h.of_eq fun e he => by
    rw [he]
    exact (Option.some_ne_none g).symm

theorem of (h : Extends P j j') (g : Nat) : Extends P (j.of g) (j'.of g) := by
  obtain ⟨added, rfl, hadded⟩ := h
  refine ⟨Journal.of g added, List.filter_append _ _, ?_⟩
  intro e he
  exact hadded e (List.mem_filter.mp he).1

theorem gather_prefix {α : Type} (h : Extends P j j') (select : JournalEntry → List α) :
    ∃ more, gather select j' = gather select j ++ more := by
  obtain ⟨added, rfl, -⟩ := h
  exact ⟨gather select added, gather_append select added j⟩

theorem gather_eq {α : Type} {select : JournalEntry → List α} (h : Extends P j j')
    (hP : ∀ e, P e → select e = []) : gather select j' = gather select j := by
  obtain ⟨added, rfl, hadded⟩ := h
  induction added with
  | nil => rfl
  | cons e rest ih =>
    have hrest := ih fun e' he' => hadded e' (List.mem_cons_of_mem e he')
    have hnone := hP e (hadded e List.mem_cons_self)
    simp only [List.cons_append, gather_cons, hrest, hnone, List.append_nil]

end Extends

/-! ### Counts -/

end Journal

end MediaMux
