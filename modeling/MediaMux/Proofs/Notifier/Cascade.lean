import Mathlib.Logic.Relation
import MediaMux.Notifier
import MediaMux.Total

/-!
# How a resolution unfolds

A notifier holds a callback until that is taken out, and is dropped after it was notified or
defused. So resolving one is a cascade: a callback is called or discarded, the notifier that it
owns is notified or dropped, and each of them is dropped in turn, by then mostly without a callback.
Every cascade ends (`Cascade.ends`), and that of a notifier with its callback tells what `notify`,
`drop` and `defuse` say (`tells_notify`, `tells_drop`, `tells_defuse`).
-/

namespace MediaMux

/-- A callback. It tells its delivery under a label, and may own a notifier, which holds a callback
or none any more. -/
inductive Callback (α : Type)
  | plain (label : α)
  | owning (label : α) (forwards : Bool) (inner : Option (Callback α))

/-- Something that is to be done with what a notifier holds, or with a callback. -/
inductive Duty (α : Type)
  | notify (held : Option (Callback α)) (d : Delivery)
  | defuse (held : Option (Callback α))
  | drop (held : Option (Callback α))
  | call (c : Callback α) (d : Delivery)
  | discard (c : Callback α)

/-- What is to be done, first duty first, and what was told. -/
structure Cascade (α : Type) where
  duties : List (Duty α)
  told : List (α × Delivery) := []

variable {α : Type}

namespace Duty

/-- What doing the duty tells, and what is to be done before all else then. -/
def perform : Duty α → List (α × Delivery) × List (Duty α)
  | notify (some c) d => ([], [call c d, drop none])
  | notify none _ => ([], [drop none])
  | defuse (some c) => ([], [discard c, drop none])
  | defuse none => ([], [drop none])
  | drop (some c) => ([], [call c .lost])
  | drop none => ([], [])
  | call (.plain label) d => ([(label, d)], [])
  | call (.owning label forwards inner) d =>
    ([(label, d)], [if forwards then notify inner d else drop inner])
  | discard (.plain _) => ([], [])
  | discard (.owning _ _ inner) => ([], [drop inner])

end Duty

namespace Cascade

/-- The first duty is done. -/
inductive Step : Cascade α → Cascade α → Prop
  | perform (duty : Duty α) (rest : List (Duty α)) (told : List (α × Delivery)) :
      Step ⟨duty :: rest, told⟩ ⟨duty.perform.2 ++ rest, told ++ duty.perform.1⟩

/-- The duties are done, one after the other, with what comes of them. -/
def Steps : Cascade α → Cascade α → Prop := Relation.ReflTransGen Step

variable {before after last : Cascade α}

theorem Steps.trans (h : Steps before after) (h' : Steps after last) : Steps before last :=
  Relation.ReflTransGen.trans h h'

theorem steps_perform (duty : Duty α) (rest : List (Duty α)) (told : List (α × Delivery)) :
    Steps ⟨duty :: rest, told⟩ ⟨duty.perform.2 ++ rest, told ++ duty.perform.1⟩ :=
  Relation.ReflTransGen.single (.perform duty rest told)

/-- There is one way to go on, so a cascade that can come to an end comes to it from wherever it
is. -/
theorem steps_end {told : List (α × Delivery)} (hend : Steps before ⟨[], told⟩)
    (h : Steps before after) : Steps after ⟨[], told⟩ := by
  have hunique : Relator.RightUnique (@Step α) := by
    rintro c next next' ⟨⟩ ⟨⟩
    rfl
  rcases Relation.ReflTransGen.total_of_right_unique hunique h hend with hafter | hafter
  · exact hafter
  · rcases Relation.ReflTransGen.cases_head hafter with heq | ⟨next, hstep, -⟩
    · exact heq ▸ Relation.ReflTransGen.refl
    · cases hstep

/-! ### Every cascade ends -/

end Cascade

/-- How many callbacks there are, with those that are owned. -/
def Callback.count : Callback α → Nat
  | plain _ => 1
  | owning _ _ none => 1
  | owning _ _ (some inner) => inner.count + 1

namespace Duty

def heldCount (held : Option (Callback α)) : Nat := (held.map Callback.count).getD 0

/-- A bound on the steps that a duty takes, with all that comes of it. -/
def work : Duty α → Nat
  | notify held _ => 4 * heldCount held + 2
  | defuse held => 4 * heldCount held + 2
  | drop held => 4 * heldCount held + 1
  | call c _ => 4 * c.count
  | discard c => 4 * c.count

theorem count_owning (label : α) (forwards : Bool) (inner : Option (Callback α)) :
    (Callback.owning label forwards inner).count = heldCount inner + 1 := by
  cases inner with
  | none => simp [Callback.count, heldCount]
  | some c => simp [Callback.count, heldCount]

theorem count_pos (c : Callback α) : 0 < c.count := by
  cases c with
  | plain label => simp [Callback.count]
  | owning label forwards inner =>
    rw [count_owning]
    omega

theorem work_perform (duty : Duty α) : total work duty.perform.2 < duty.work := by
  cases duty with
  | notify held d =>
    cases held <;> simp [perform, work, heldCount, total]
  | defuse held =>
    cases held <;> simp [perform, work, heldCount, total]
  | drop held =>
    cases held <;> simp [perform, work, heldCount, total]
  | call c d =>
    have hpos := count_pos c
    cases c with
    | plain label => simpa [perform, work, total] using hpos
    | owning label forwards inner =>
      have hcount := count_owning label forwards inner
      cases forwards <;> simp [perform, work, total, hcount] <;> omega
  | discard c =>
    have hpos := count_pos c
    cases c with
    | plain label => simpa [perform, work, total] using hpos
    | owning label forwards inner =>
      have hcount := count_owning label forwards inner
      simp [perform, work, total, hcount]
      omega

end Duty

namespace Cascade

/-- Whatever is to be done, in the end nothing is left to do. -/
theorem ends (c : Cascade α) : ∃ told, Steps c ⟨[], told⟩ := by
  obtain ⟨duties, told⟩ := c
  -- the work that is left gets less with every duty that is done
  induction hwork : total Duty.work duties using Nat.strongRecOn generalizing duties told with
  | ind n ih =>
    subst hwork
    cases duties with
    | nil => exact ⟨told, Relation.ReflTransGen.refl⟩
    | cons duty rest =>
      have hless : total Duty.work (duty.perform.2 ++ rest) < total Duty.work (duty :: rest) := by
        have := duty.work_perform
        rw [total_append, total]
        omega
      obtain ⟨all, hall⟩ := ih _ hless (duty.perform.2 ++ rest) (told ++ duty.perform.1) rfl
      exact ⟨all, (steps_perform duty rest told).trans hall⟩

end Cascade

/-! ### Notifiers with their callbacks -/

def Notifier.callback : Notifier α → Callback α
  | plain label => .plain label
  | owning label forwards inner => .owning label forwards (some inner.callback)

/-- However far the cascade of a duty is, it comes to its end, having told this. -/
def Duty.Tells (duty : Duty α) (told : List (α × Delivery)) : Prop :=
  ∀ c, Cascade.Steps ⟨[duty], []⟩ c → Cascade.Steps c ⟨[], told⟩

namespace Notifier

open Cascade

theorem steps_drop_none (rest : List (Duty α)) (told : List (α × Delivery)) :
    Steps ⟨.drop none :: rest, told⟩ ⟨rest, told⟩ := by
  have h := steps_perform (.drop none) rest told
  rw [show (Duty.drop (none : Option (Callback α))).perform = ([], []) from rfl] at h
  simpa using h

theorem steps_call (n : Notifier α) (d : Delivery) (rest : List (Duty α))
    (told : List (α × Delivery)) :
    Steps ⟨.call n.callback d :: rest, told⟩ ⟨rest, told ++ n.notify d⟩ := by
  induction n generalizing d rest told with
  | plain label => exact steps_perform (.call (.plain label) d) rest told
  | owning label forwards inner ih =>
    have hcall := steps_perform (.call (.owning label forwards (some inner.callback)) d) rest told
    refine hcall.trans ?_
    have htold : told ++ (owning label forwards inner).notify d =
        (told ++ [(label, d)]) ++ inner.notify (if forwards then d else .lost) := by
      simp [notify]
    rw [htold]
    cases forwards with
    | true =>
      -- the inner notifier is told, and dropped when its callback is gone
      have hnotify := steps_perform (.notify (some inner.callback) d) rest (told ++ [(label, d)])
      have hinner := ih d (.drop none :: rest) (told ++ [(label, d)])
      refine Steps.trans ?_ (hinner.trans (steps_drop_none rest _))
      simpa [Duty.perform] using hnotify
    | false =>
      have hdrop := steps_perform (.drop (some inner.callback)) rest (told ++ [(label, d)])
      have hinner := ih .lost rest (told ++ [(label, d)])
      refine Steps.trans ?_ hinner
      simpa [Duty.perform] using hdrop

theorem steps_drop (n : Notifier α) (rest : List (Duty α)) (told : List (α × Delivery)) :
    Steps ⟨.drop (some n.callback) :: rest, told⟩ ⟨rest, told ++ n.drop⟩ := by
  have hdrop := steps_perform (.drop (some n.callback)) rest told
  have hcall := n.steps_call .lost rest told
  refine Steps.trans ?_ hcall
  simpa [Duty.perform] using hdrop

theorem tells_drop (n : Notifier α) : (Duty.drop (some n.callback)).Tells n.drop :=
  fun _ => steps_end (n.steps_drop [] [])

theorem tells_notify (n : Notifier α) (d : Delivery) :
    (Duty.notify (some n.callback) d).Tells (n.notify d) := by
  refine fun _ => steps_end ?_
  have hnotify := steps_perform (.notify (some n.callback) d) [] []
  have hcall := n.steps_call d [.drop none] []
  refine Steps.trans ?_ (hcall.trans (steps_drop_none [] _))
  simpa [Duty.perform] using hnotify

theorem tells_defuse (n : Notifier α) : (Duty.defuse (some n.callback)).Tells n.defuse := by
  refine fun _ => steps_end ?_
  have hdefuse := steps_perform (.defuse (some n.callback)) [] []
  refine Steps.trans hdefuse ?_
  cases n with
  | plain label =>
    have hdiscard := steps_perform (.discard (.plain label)) [.drop none] []
    exact hdiscard.trans (steps_drop_none [] [])
  | owning label forwards inner =>
    have hdiscard := steps_perform (.discard (.owning label forwards (some inner.callback)))
      [.drop none] []
    have hdrop := inner.steps_drop [.drop none] []
    exact hdiscard.trans (hdrop.trans (steps_drop_none [] _))

end Notifier

end MediaMux
